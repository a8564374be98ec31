import Timetable.Proofs.Cache.Effects

/-
  This file tells what the cache has left after a pattern was
  forgotten that is a plain text with a star behind it: the
  keys that start with the text are gone, and nothing else
  has changed.

  Forgetting finds the keys first and then deletes them one
  by one, so it may break off between two of them.  How keys
  are found and deleted is left open here, except that the
  keys found are those that match and that a deletion touches
  its own key alone; the server of this library is one case.

  Key definitions include:
    * `Glob.Plain`
    * `Server.keeping`
    * `Server.withoutPrefix`
    * `Remover`
    * `Remover.forget`
    * `Remover.Forgets`
    * `Remover.BreaksAt`

  Main theorems include:
    * `Glob.matchesKey_plain_star`
    * `Remover.plain_forget`
    * `Remover.forgets_of_runs`
    * `Remover.runs_forget_ok`
    * `Remover.runs_forget_error`
    * `Remover.BreaksAt.outcome_forget`
-/

namespace Timetable.Cache

open Act

------------------------------------------------------------
-- Plain Patterns
------------------------------------------------------------

namespace Glob

/- A character that stands for itself in a pattern. -/
def Literal (c : Char) : Prop :=
  c ≠ '*' ∧ c ≠ '?' ∧ c ≠ '[' ∧ c ≠ '\\'

/- A text all of whose characters stand for themselves. -/
def Plain (s : String) : Prop :=
  ∀ c ∈ s.toList, Literal c

theorem Plain.of_all
    {s : String}
    (hAll :
      s.toList.all (fun c => c != '*' && c != '?' && c != '[' && c != '\\') = true) :
    Plain s := by
  intro c hc
  have hOne := List.all_eq_true.mp hAll c hc
  simpa [Literal, and_assoc] using hOne

theorem read_literal
    {c : Char}
    (hLiteral : Literal c)
    (rest : List Char) :
    read (c :: rest) = .char c :: read rest := by
  rcases hLiteral with ⟨hStar, hOne, hSet, hEscape⟩
  rw [read.eq_def]
  split <;> simp_all

/- Plain characters with a star behind them are read as they stand. -/
theorem read_plain_star
    {cs : List Char}
    (hPlain : ∀ c ∈ cs, Literal c) :
    read (cs ++ ['*']) = cs.map .char ++ [.star] := by
  induction cs with
  | nil => simp [read]
  | cons c cs ih =>
      rw [List.cons_append, read_literal (hPlain c (by simp)),
        ih (fun d hd => hPlain d (by simp [hd]))]
      rfl

/- A star at the end takes all that is left. -/
theorem matchTokens_star
    (cs : List Char) :
    matchTokens [.star] cs = true := by
  induction cs with
  | nil => simp [matchTokens]
  | cons c cs ih => simp [matchTokens, ih]

theorem matchTokens_chars_star
    (cs ks : List Char) :
    matchTokens (cs.map .char ++ [.star]) ks = true ↔ cs <+: ks := by
  induction cs generalizing ks with
  | nil => simp [matchTokens_star]
  | cons c cs ih =>
      cases ks with
      | nil => simp [matchTokens]
      | cons k ks =>
          simp [matchTokens, Token.accepts, ih, List.cons_prefix_cons, @eq_comm _ k c]

/- Such a pattern is matched by the keys that start with its text. -/
theorem matchesKey_plain_star
    {p : String}
    (hPlain : Plain p)
    (key : String) :
    matchesKey (p ++ "*") key = true ↔ p.toList <+: key.toList := by
  have hRead : read (p ++ "*").toList = p.toList.map .char ++ [.star] := by
    rw [String.toList_append]
    exact read_plain_star hPlain
  rw [matchesKey, hRead, matchTokens_chars_star]

end Glob

------------------------------------------------------------
-- Part of a Server
------------------------------------------------------------

namespace Server

/- The server with some of its keys only. -/
def keeping
    (keep : String → Bool)
    (s : Server) : Server :=
  { s with entries := s.entries.filter (fun e => keep e.key) }

/- The server without the keys that start with a text. -/
def withoutPrefix
    (p : String)
    (s : Server) : Server :=
  s.keeping (fun key => !p.toList.isPrefixOf key.toList)

theorem delete_eq_keeping
    (key : String)
    (s : Server) :
    s.delete key = s.keeping (· != key) :=
  rfl

theorem keeping_keeping
    (keep more : String → Bool)
    (s : Server) :
    (s.keeping keep).keeping more = s.keeping (fun key => more key && keep key) := by
  simp [keeping, List.filter_filter]

theorem keeping_all
    (s : Server) :
    s.keeping (fun _ => true) = s := by
  simp only [keeping, List.filter_eq_self.mpr, implies_true]

/- Only the keys of the server matter. -/
theorem keeping_congr
    {keep keep' : String → Bool}
    {s : Server}
    (h : ∀ e ∈ s.entries, keep e.key = keep' e.key) :
    s.keeping keep = s.keeping keep' := by
  simp only [keeping, List.filter_congr h]

/- What is kept is found as before, and nothing else is found. -/
theorem find?_keeping
    (keep : String → Bool)
    (s : Server)
    (key : String) :
    (s.keeping keep).find? key = if keep key then s.find? key else none := by
  simp only [find?, keeping, List.find?_filter]
  split
  · rename_i hKeep
    congr 1
    funext e
    by_cases h : e.key = key <;> simp [h, hKeep]
  · rename_i hDrop
    apply List.find?_eq_none.mpr
    intro e _ hFound
    simp only [beq_iff_eq, decide_eq_true_eq] at hFound
    exact hDrop (hFound.2 ▸ hFound.1)

/- What matches a plain text with a star behind it are the keys that start with the text. -/
theorem scan_plain_star
    {p : String}
    (hPlain : Glob.Plain p)
    (s : Server) :
    s.scan (p ++ "*") =
      (s.entries.map (·.key)).filter (fun key => p.toList.isPrefixOf key.toList) := by
  apply List.filter_congr
  intro key _
  rw [Bool.eq_iff_iff, Glob.matchesKey_plain_star hPlain, List.isPrefixOf_iff_prefix]

theorem mem_scan_iff
    {pattern key : String}
    {s : Server} :
    key ∈ s.scan pattern ↔
      (∃ e ∈ s.entries, e.key = key) ∧ Glob.matchesKey pattern key = true := by
  simp [scan, List.mem_filter]

end Server

------------------------------------------------------------
-- Finding and Deleting Keys
------------------------------------------------------------

/-
  A way to find keys and to delete them.  The keys found are
  the ones that match, in any order and maybe more than once.
  A deletion that succeeds has removed its key; one that is
  refused may have removed it or not.
-/
structure Remover extends Removal where
  runs_scan :
    ∀ {pattern w o w'},
      (scan pattern).Runs w o w' →
        w'.settings = w.settings ∧ w'.cache = w.cache ∧
        ∀ keys, o = .ok keys → ∀ key, key ∈ keys ↔ key ∈ w.cache.scan pattern
  runs_del :
    ∀ {key w o w'},
      (del key).Runs w o w' →
        w'.settings = w.settings ∧
        (w'.cache = w.cache.delete key ∨ o ≠ .ok () ∧ w'.cache = w.cache)

namespace Remover

/- The remover of this library, which sends the server one command for each step. -/
def plain : Remover where
  toRemoval := byCommands
  runs_scan := by
    intro pattern w o w' hRun
    rcases (runs_bind_iff _ _ _ _ _).mp hRun with
      ⟨f, hCommand, rfl⟩ | ⟨_, w₁, hCommand, hRest⟩
    · rw [runs_command hCommand]
      exact ⟨rfl, rfl, fun _ hOk => by cases hOk⟩
    · rw [runs_command hCommand] at hRest
      rw [runs_bind_iff] at hRest
      rcases hRest with ⟨f, hGet, _⟩ | ⟨v, w₂, hGet, hAnswer⟩
      · cases ((runs_get_iff _ _ _).mp hGet).1
      rcases (runs_get_iff _ _ _).mp hGet with ⟨hHere, rfl⟩
      cases hHere
      rcases (runs_pure_iff _ _ _ _).mp hAnswer with ⟨rfl, rfl⟩
      refine ⟨rfl, rfl, fun keys hOk key => ?_⟩
      cases hOk
      exact Iff.rfl
  runs_del := by
    intro key w o w' hRun
    rcases (runs_bind_iff _ _ _ _ _).mp hRun with
      ⟨f, hCommand, rfl⟩ | ⟨_, w₁, hCommand, hRest⟩
    · rw [runs_command hCommand]
      exact ⟨rfl, .inr ⟨nofun, rfl⟩⟩
    · rw [runs_command hCommand] at hRest
      rcases (runs_modify_iff _ _ _ _).mp hRest with ⟨rfl, rfl⟩
      exact ⟨rfl, .inl rfl⟩

/- A server that refuses no command carries out those of a request that goes on. -/
theorem runs_command_ok
    {w : World}
    (hGoing : w.context.failure? = none)
    (hWilling : w.cache.refusals = [])
    (c : Command) :
    (command c).Runs w (.ok ()) w := by
  have hNone : w.cache.refusal? c = none := by
    simp [Server.refusal?, hWilling]
  unfold Runs command
  rw [exec_bind, exec_checkContext, hGoing]
  simp only
  rw [exec_get_bind, hNone]
  rfl

/- Forgetting with this remover is what the service does. -/
theorem plain_forget
    (pattern : String) :
    plain.forget pattern = Cache.forget pattern :=
  rfl

end Remover

------------------------------------------------------------
-- What Forgetting Does
------------------------------------------------------------

namespace Remover

variable
  {r : Remover}
  {pattern p : String}
  {keys : List String}
  {w w' : World}
  {o : Except Failure Unit}

/- Between two worlds the cache has lost some keys, and nothing else. -/
structure Deleted
    (keys : List String)
    (w w' : World) : Prop where
  settings : w'.settings = w.settings
  cache : w'.cache = w.cache.keeping (fun key => !keys.contains key)

/- One deletion more. -/
theorem Deleted.after_delete
    {key : String}
    {w₁ : World}
    (hSettings : w₁.settings = w.settings)
    (hGone : w₁.cache = w.cache.delete key)
    (hRest : Deleted keys w₁ w') :
    Deleted (key :: keys) w w' := by
  refine ⟨hRest.settings.trans hSettings, ?_⟩
  rw [hRest.cache, hGone, Server.delete_eq_keeping, Server.keeping_keeping]
  congr 1
  funext other
  by_cases h : other = key <;> simp [h]

theorem Deleted.nothing
    (hSettings : w'.settings = w.settings)
    (hCache : w'.cache = w.cache) :
    Deleted [] w w' :=
  ⟨hSettings, by simpa using hCache.trans w.cache.keeping_all.symm⟩

/- Deleting keys removes all of them, or is refused at one and has removed some. -/
theorem runs_deleteKeys
    (hRun : (r.deleteKeys keys).Runs w o w') :
    (o = .ok () ∧ Deleted keys w w') ∨
      ∃ removed ⊆ keys, ∃ key ∈ keys, ∃ g,
        o = .error (.during ("redis delete " ++ key) g) ∧ Deleted removed w w' := by
  induction keys generalizing w with
  | nil =>
      rcases (runs_pure_iff _ _ _ _).mp hRun with ⟨rfl, rfl⟩
      exact .inl ⟨rfl, .nothing rfl rfl⟩
  | cons key rest ih =>
      rcases (runs_restating_bind_iff _ _ _ _ _ _).mp hRun with
        ⟨g, hDel, rfl⟩ | ⟨_, w₁, hDel, hRest⟩
      · rcases r.runs_del hDel with ⟨hSettings, hGone | ⟨_, hThere⟩⟩
        · have hOne : Deleted [key] w w' :=
            .after_delete hSettings hGone (.nothing rfl rfl)
          exact .inr ⟨[key], by simp, key, by simp, g, rfl, hOne⟩
        · exact .inr ⟨[], by simp, key, by simp, g, rfl, .nothing hSettings hThere⟩
      · rcases r.runs_del hDel with ⟨hSettings, hGone | ⟨hNot, _⟩⟩
        · rcases ih hRest with
            ⟨rfl, hDeleted⟩ | ⟨removed, hRemoved, other, hOther, g, rfl, hDeleted⟩
          · exact .inl ⟨rfl, Deleted.after_delete hSettings hGone hDeleted⟩
          · exact .inr ⟨key :: removed, List.cons_subset_cons key hRemoved, other,
              List.mem_cons_of_mem key hOther, g, rfl,
              Deleted.after_delete hSettings hGone hDeleted⟩
        · exact absurd rfl hNot

/- A deletion that is refused ends the deleting of keys. -/
theorem runs_deleteKeys_refused
    {before : List String}
    {key : String}
    {g : Failure}
    {w₁ : World}
    (after : List String)
    (hBefore : (r.deleteKeys before).Runs w (.ok ()) w₁)
    (hRefused : (r.del key).Runs w₁ (.error g) w') :
    (r.deleteKeys (before ++ key :: after)).Runs w
      (.error (.during ("redis delete " ++ key) g)) w' := by
  induction before generalizing w with
  | nil =>
      rcases (runs_pure_iff _ _ _ _).mp hBefore with ⟨_, rfl⟩
      exact (runs_restating_bind_iff _ _ _ _ _ _).mpr (.inl ⟨g, hRefused, rfl⟩)
  | cons first rest ih =>
      rcases (runs_restating_bind_iff _ _ _ _ _ _).mp hBefore with
        ⟨_, _, hError⟩ | ⟨a, w₂, hFirst, hRest⟩
      · cases hError
      · exact (runs_restating_bind_iff _ _ _ _ _ _).mpr (.inr ⟨a, w₂, hFirst, ih hRest⟩)

/- Without a connection nothing is dropped; with one the keys found are deleted. -/
theorem runs_dropSnapshots
    (hRun : (r.dropSnapshots pattern).Runs w o w') :
    (w.settings.cacheMode ≠ .connected ∧ o = .ok () ∧ w' = w) ∨
      w.settings.cacheMode = .connected ∧
        ((∃ g,
          (r.scan (fullKey w.settings.keySpace pattern)).Runs w (.error g) w' ∧
            o = .error (.during ("redis scan pattern " ++ pattern) g)) ∨
          ∃ keys w₁ w₂,
            (r.scan (fullKey w.settings.keySpace pattern)).Runs w (.ok keys) w₁ ∧
            (r.deleteKeys keys).Runs w₁ o w₂ ∧
            w'.settings = w₂.settings ∧ w'.cache = w₂.cache) := by
  have hGoing := (runs_isConnected_bind_iff _ _ _ _).mp hRun
  split at hGoing
  · rename_i hMode
    refine .inr ⟨by simpa using hMode, ?_⟩
    rcases (runs_bind_iff _ _ _ _ _).mp hGoing with
      ⟨f, hSettings, _⟩ | ⟨settings, w₀, hSettings, hScanning⟩
    · cases ((runs_settings_iff _ _ _).mp hSettings).1
    rcases (runs_settings_iff _ _ _).mp hSettings with ⟨hHere, rfl⟩
    cases hHere
    rcases (runs_restating_bind_iff _ _ _ _ _ _).mp hScanning with
      ⟨g, hScan, rfl⟩ | ⟨keys, w₁, hScan, hDeleting⟩
    · exact .inl ⟨g, hScan, rfl⟩
    rcases (runs_bind_iff _ _ _ _ _).mp hDeleting with
      ⟨g, hDelete, rfl⟩ | ⟨_, w₂, hDelete, hLog⟩
    · exact .inr ⟨keys, w₁, w', hScan, hDelete, rfl, rfl⟩
    · rcases (runs_logEntry_iff _ _ _ _).mp hLog with ⟨rfl, rfl⟩
      exact .inr ⟨keys, w₁, w₂, hScan, hDelete, rfl, rfl⟩
  · rename_i hMode
    rcases (runs_pure_iff _ _ _ _).mp hGoing with ⟨rfl, rfl⟩
    exact .inl ⟨by simpa using hMode, rfl, rfl⟩

/- Forgetting drops the snapshots and passes on why it could not. -/
theorem runs_forget
    (hRun : (r.forget pattern).Runs w o w') :
    (w.settings.cacheMode ≠ .connected ∧ o = .ok () ∧ w' = w) ∨
      ∃ w₁,
        (r.dropSnapshots pattern).Runs w o w₁ ∧
          w'.settings = w₁.settings ∧ w'.cache = w₁.cache := by
  have hGoing := (runs_isEnabled_bind_iff _ _ _ _).mp hRun
  split at hGoing
  · rcases (runs_attempt_bind_iff _ _ _ _ _).mp hGoing with
      ⟨o₁, w₁, hDrop, hAnswer⟩
    cases o₁ with
    | ok _ =>
        rcases (runs_pure_iff _ _ _ _).mp hAnswer with ⟨rfl, rfl⟩
        exact .inr ⟨w', hDrop, rfl, rfl⟩
    | error g =>
        rcases (runs_bind_iff _ _ _ _ _).mp hAnswer with
          ⟨f, hLog, _⟩ | ⟨_, w₂, hLog, hThrow⟩
        · cases ((runs_logEntry_iff _ _ _ _).mp hLog).1
        · rcases (runs_logEntry_iff _ _ _ _).mp hLog with ⟨_, rfl⟩
          rcases (runs_throw_iff _ _ _ _).mp hThrow with ⟨rfl, rfl⟩
          exact .inr ⟨w₁, hDrop, rfl, rfl⟩
  · rename_i hMode
    rcases (runs_pure_iff _ _ _ _).mp hGoing with ⟨rfl, rfl⟩
    refine .inl ⟨fun hConnected => hMode (by simp [hConnected]), rfl, rfl⟩

/- How a forgetting can go. -/
inductive Forgets
    (pattern : String)
    (w w' : World) : Except Failure Unit → Prop where
/- There is no connection. -/
| unconnected
    (hNot : w.settings.cacheMode ≠ .connected)
    (hSame : Deleted [] w w') :
    Forgets pattern w w' (.ok ())
/- The keys could not be found. -/
| unscanned
    {g : Failure}
    (hSame : Deleted [] w w') :
    Forgets pattern w w' (.error (.during ("redis scan pattern " ++ pattern) g))
| finished
    {keys : List String}
    (hConnected : w.settings.cacheMode = .connected)
    (hKeys :
      ∀ key, key ∈ keys ↔ key ∈ w.cache.scan (fullKey w.settings.keySpace pattern))
    (hDeleted : Deleted keys w w') :
    Forgets pattern w w' (.ok ())
| refused
    {removed : List String}
    {key : String}
    {g : Failure}
    (hRemoved : ∀ key ∈ removed, key ∈ w.cache.scan (fullKey w.settings.keySpace pattern))
    (hDeleted : Deleted removed w w') :
    Forgets pattern w w' (.error (.during ("redis delete " ++ key) g))

theorem forgets_of_runs
    (hRun : (r.forget pattern).Runs w o w') :
    Forgets pattern w w' o := by
  rcases runs_forget hRun with ⟨hNot, rfl, rfl⟩ | ⟨v, hDrop, hSettings, hCache⟩
  · exact .unconnected hNot (.nothing rfl rfl)
  rcases runs_dropSnapshots hDrop with
    ⟨hNot, rfl, rfl⟩ |
      ⟨hConnected,
        ⟨g, hScan, rfl⟩ | ⟨keys, w₁, w₂, hScan, hDelete, hSettings₂, hCache₂⟩⟩
  · exact .unconnected hNot (.nothing hSettings hCache)
  · rcases r.runs_scan hScan with ⟨hSettings₁, hCache₁, _⟩
    exact .unscanned (.nothing (hSettings.trans hSettings₁) (hCache.trans hCache₁))
  rcases r.runs_scan hScan with ⟨hSettings₁, hCache₁, hKeys⟩
  have hAround : ∀ removed, Deleted removed w₁ w₂ → Deleted removed w w' := by
    intro removed hDeleted
    exact
      { settings :=
          hSettings.trans (hSettings₂.trans (hDeleted.settings.trans hSettings₁))
        cache := by rw [hCache, hCache₂, hDeleted.cache, hCache₁] }
  rcases runs_deleteKeys hDelete with
    ⟨rfl, hDeleted⟩ | ⟨removed, hRemoved, _, _, g, rfl, hDeleted⟩
  · exact .finished hConnected (hKeys keys rfl) (hAround keys hDeleted)
  · exact .refused (fun key hKey => (hKeys keys rfl key).mp (hRemoved hKey))
      (hAround removed hDeleted)

------------------------------------------------------------
-- Forgetting Plain Patterns
------------------------------------------------------------

/- The pattern stands in the key space like its text. -/
theorem fullKey_star
    (keySpace p : String) :
    fullKey keySpace (p ++ "*") = fullKey keySpace p ++ "*" := by
  unfold fullKey
  split
  · rfl
  · simp only [String.append_assoc]

theorem plain_fullKey
    {keySpace : String}
    (hSpace : Glob.Plain keySpace)
    (hText : Glob.Plain p) :
    Glob.Plain (fullKey keySpace p) := by
  unfold fullKey
  split
  · exact hText
  · intro c hc
    simp only [String.toList_append, List.mem_append] at hc
    rcases hc with (hc | hc) | hc
    · exact hSpace c hc
    · have hColon : c = ':' := by simpa using hc
      subst hColon
      exact ⟨by decide, by decide, by decide, by decide⟩
    · exact hText c hc

/- A successful forgetting takes the keys that start with the text, and nothing else. -/
theorem runs_forget_ok
    (hSpace : Glob.Plain w.settings.keySpace)
    (hText : Glob.Plain p)
    (hRun : (r.forget (p ++ "*")).Runs w (.ok ()) w') :
    w'.settings = w.settings ∧
      w'.cache =
        if w.settings.cacheMode = .connected then
          w.cache.withoutPrefix (fullKey w.settings.keySpace p)
        else w.cache := by
  cases forgets_of_runs hRun with
  | unconnected hNot hSame =>
      refine ⟨hSame.settings, ?_⟩
      rw [if_neg hNot, hSame.cache]
      exact w.cache.keeping_all
  | @finished keys hConnected hKeys hDeleted =>
      refine ⟨hDeleted.settings, ?_⟩
      rw [if_pos hConnected, hDeleted.cache]
      apply Server.keeping_congr
      intro e he
      -- a key of the server is among those found if it starts with the text
      have hFound : keys.contains e.key =
          (fullKey w.settings.keySpace p).toList.isPrefixOf e.key.toList := by
        rw [Bool.eq_iff_iff, List.contains_iff_mem, hKeys, Server.mem_scan_iff, fullKey_star,
          Glob.matchesKey_plain_star (plain_fullKey hSpace hText), List.isPrefixOf_iff_prefix]
        exact and_iff_right ⟨e, he, rfl⟩
      rw [hFound]

/- A forgetting that fails has taken nothing but keys that start with the text. -/
theorem runs_forget_error
    {g : Failure}
    (hSpace : Glob.Plain w.settings.keySpace)
    (hText : Glob.Plain p)
    (hRun : (r.forget (p ++ "*")).Runs w (.error g) w') :
    ∃ removed : List String,
      (∀ key ∈ removed,
        (fullKey w.settings.keySpace p).toList <+: key.toList) ∧
      Deleted removed w w' := by
  cases forgets_of_runs hRun with
  | unscanned hSame => exact ⟨[], by simp, hSame⟩
  | @refused removed _ _ hRemoved hDeleted =>
      refine ⟨removed, fun key hKey => ?_, hDeleted⟩
      have hFound := hRemoved key hKey
      rw [Server.mem_scan_iff, fullKey_star] at hFound
      exact (Glob.matchesKey_plain_star (plain_fullKey hSpace hText) key).mp hFound.2

/- Once the keys are found, it is their deletion that decides. -/
theorem outcome_dropSnapshots_of_scan
    {w₁ : World}
    (hConnected : w.settings.cacheMode = .connected)
    (hScan : (r.scan (fullKey w.settings.keySpace pattern)).Runs w (.ok keys) w₁) :
    (r.dropSnapshots pattern).outcome w = (r.deleteKeys keys).outcome w₁ := by
  rcases hDrop : (r.dropSnapshots pattern).exec w with ⟨o, w'⟩
  rw [Runs.outcome_eq hDrop]
  rcases runs_dropSnapshots hDrop with
    ⟨hNot, _⟩ | ⟨_, ⟨g, hRefused, _⟩ | ⟨keys', w₁', w₂, hFound, hDelete, _⟩⟩
  · exact absurd hConnected hNot
  · cases hScan.outcome_eq.symm.trans hRefused.outcome_eq
  · cases hScan.outcome_eq.symm.trans hFound.outcome_eq
    rw [← hScan.after_eq, hFound.after_eq]
    exact hDelete.outcome_eq.symm

theorem outcome_forget_of_scan
    {w₁ : World}
    (hConnected : w.settings.cacheMode = .connected)
    (hScan : (r.scan (fullKey w.settings.keySpace pattern)).Runs w (.ok keys) w₁) :
    (r.forget pattern).outcome w = (r.deleteKeys keys).outcome w₁ := by
  rcases hForget : (r.forget pattern).exec w with ⟨o, w'⟩
  rw [Runs.outcome_eq hForget]
  rcases runs_forget hForget with ⟨hNot, _⟩ | ⟨v, hDrop, _⟩
  · exact absurd hConnected hNot
  · exact hDrop.outcome_eq.symm.trans (outcome_dropSnapshots_of_scan hConnected hScan)

/-
  In a world, after the keys were found and some of them were
  deleted, the deletion of a key is refused.
-/
def BreaksAt
    (r : Remover)
    (pattern : String)
    (w : World)
    (key : String)
    (g : Failure) : Prop :=
  ∃ before after w₁ w₂ w₃,
    (r.scan (fullKey w.settings.keySpace pattern)).Runs w (.ok (before ++ key :: after)) w₁ ∧
    (r.deleteKeys before).Runs w₁ (.ok ()) w₂ ∧
    (r.del key).Runs w₂ (.error g) w₃

/- Then the failure of this deletion is what the forgetting fails with. -/
theorem BreaksAt.outcome_forget
    {key : String}
    {g : Failure}
    (hConnected : w.settings.cacheMode = .connected)
    (h : r.BreaksAt pattern w key g) :
    (r.forget pattern).outcome w = .error (.during ("redis delete " ++ key) g) := by
  rcases h with ⟨before, after, w₁, w₂, w₃, hScan, hBefore, hRefused⟩
  rw [outcome_forget_of_scan hConnected hScan]
  exact (runs_deleteKeys_refused after hBefore hRefused).outcome_eq

------------------------------------------------------------
-- Forgetting that Succeeds
------------------------------------------------------------

theorem runs_plain_del
    (hGoing : w.context.failure? = none)
    (hWilling : w.cache.refusals = [])
    (key : String) :
    (plain.del key).Runs w (.ok ()) { w with cache := w.cache.delete key } :=
  (runs_bind_iff _ _ _ _ _).mpr
    (.inr ⟨(), w, runs_command_ok hGoing hWilling .del, rfl⟩)

theorem runs_plain_scan
    (hGoing : w.context.failure? = none)
    (hWilling : w.cache.refusals = [])
    (pattern : String) :
    (plain.scan pattern).Runs w (.ok (w.cache.scan pattern)) w :=
  (runs_bind_iff _ _ _ _ _).mpr
    (.inr ⟨(), w, runs_command_ok hGoing hWilling .scan, rfl⟩)

theorem outcome_plain_deleteKeys
    (hGoing : w.context.failure? = none)
    (hWilling : w.cache.refusals = [])
    (keys : List String) :
    (plain.deleteKeys keys).outcome w = .ok () := by
  induction keys generalizing w with
  | nil => rfl
  | cons key rest ih =>
      have hRest :=
        ih (w := { w with cache := w.cache.delete key }) hGoing hWilling
      have hRun :
          (plain.deleteKeys (key :: rest)).Runs w (.ok ()) ((plain.deleteKeys rest).after
            { w with cache := w.cache.delete key }) := by
        apply (runs_restating_bind_iff _ _ _ _ _ _).mpr
        refine .inr ⟨(), _, runs_plain_del hGoing hWilling key, ?_⟩
        rw [← hRest]
        exact runs_outcome_after _ _
      exact hRun.outcome_eq

/- A request that goes on forgets what it wants, if no command is refused. -/
theorem outcome_plain_forget
    (hGoing : w.context.failure? = none)
    (hWilling : w.cache.refusals = [])
    (hConnected : w.settings.cacheMode = .connected)
    (pattern : String) :
    (Cache.forget pattern).outcome w = .ok () := by
  rw [← plain_forget,
    outcome_forget_of_scan hConnected (runs_plain_scan hGoing hWilling _)]
  exact outcome_plain_deleteKeys hGoing hWilling _

end Remover

end Timetable.Cache
