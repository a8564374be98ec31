import Timetable.Configuration.Sources

/-
  This file defines the configuration of the service.

  Key definitions include:
    * `Configuration`
    * `Configuration.ofSources`
    * `Configuration.load?`
-/

open Timetable.Configuration

namespace Timetable

------------------------------------------------------------
-- Configurations
------------------------------------------------------------

/- How the store is reached. -/
structure Configuration.StoreAccess where
  host : String
  portNumber : Int
  user : String
  password : String
  name : String
  sslMode : String
  maxOpen : Int
  maxIdle : Int
deriving DecidableEq, Repr

/- How the cache is reached. -/
structure Configuration.CacheAccess where
  host : String
  portNumber : Int
  password : String
  database : Int
deriving DecidableEq, Repr

/- How requests are traced. -/
structure Configuration.Tracing where
  enabled : Bool
  serviceName : String
  endpoint : String
  insecure : Bool
  /- The share of requests that are traced. -/
  sampleRatio : Float
deriving Repr

/- The configuration of the service.  Durations are in nanoseconds. -/
structure Configuration where
  environment : String
  portNumber : Int
  /- What the paths of the API start with. -/
  apiBase : String
  store : StoreAccess
  cache : CacheAccess
  tokenSecret : String
  tokenIssuer : String
  allowedOrigins : Option (List String)
  originMaxAge : Int
  logLevel : String
  logFormat : String
  requestTimeout : Int
  locale : String
  catalogCacheEnabled : Bool
  catalogCacheTtl : Int
  tracing : Tracing
  metricsEnabled : Bool
deriving Repr

------------------------------------------------------------
-- Loading
------------------------------------------------------------

namespace Configuration

/- A share lies between nothing and all. -/
def clampShare (x : Float) : Float :=
  if x < 0 then 0 else if 1 < x then 1 else x

/- The configuration of the store. -/
def StoreAccess.ofSources (s : Sources) : StoreAccess :=
  { host := s.text "DB_HOST" "localhost"
    portNumber := s.integer "DB_PORT" 5432
    user := s.text "DB_USER" "postgres"
    password := s.text "DB_PASSWORD" "postgres"
    name := s.text "DB_NAME" "study_planner"
    sslMode := s.text "DB_SSL_MODE" "disable"
    maxOpen := s.integer "DB_MAX_OPEN_CONNS" 10
    maxIdle := s.integer "DB_MAX_IDLE_CONNS" 5 }

/- The configuration of the cache. -/
def CacheAccess.ofSources (s : Sources) : CacheAccess :=
  { host := s.text "REDIS_HOST" "localhost"
    portNumber := s.integer "REDIS_PORT" 6379
    password := s.text "REDIS_PASSWORD" ""
    database := s.integer "REDIS_DB" 0 }

/- The configuration of traces. -/
def Tracing.ofSources (s : Sources) : Tracing :=
  { enabled := s.flag "OTEL_ENABLED" false
    serviceName := s.text "OTEL_SERVICE_NAME" "study-planner-api"
    endpoint := s.text "OTEL_EXPORTER_OTLP_ENDPOINT" ""
    insecure := s.flag "OTEL_EXPORTER_OTLP_INSECURE" false
    sampleRatio := clampShare (s.number "OTEL_SAMPLER_RATIO" 0.1) }

/- A minute in nanoseconds. -/
def minuteNanos : Int := 60000000000

/- The configuration that sources give. -/
def ofSources (s : Sources) : Configuration :=
  { environment := s.text "ENV" "development"
    portNumber := s.integer "PORT" 8080
    apiBase := s.text "API_PREFIX" "/api/v1"
    store := .ofSources s
    cache := .ofSources s
    tokenSecret := s.text "JWT_SECRET" "dev_secret"
    tokenIssuer := s.text "JWT_ISSUER" ""
    allowedOrigins := s.parts? "ALLOWED_ORIGINS"
    originMaxAge := s.age "CORS_MAX_AGE" (10 * minuteNanos)
    logLevel := s.text "LOG_LEVEL" "info"
    logFormat := s.text "LOG_FORMAT" "json"
    requestTimeout := s.duration "PLANNER_REQUEST_TIMEOUT" (minuteNanos / 2)
    locale := s.text "PLANNER_LOCALE" "pt-BR"
    catalogCacheEnabled := s.flag "PLANNER_CATALOG_CACHE_ENABLED" false
    catalogCacheTtl := s.duration "PLANNER_CATALOG_CACHE_TTL" (10 * minuteNanos)
    tracing := .ofSources s
    metricsEnabled := s.flag "ENABLE_METRICS" true }

/- The configuration that variables and a settings file give, unless the file is malformed. -/
def load?
    (bindings : List (String × String))
    (file : Option String) : Option Configuration :=
  (Sources.read? bindings file).map ofSources

end Configuration

end Timetable
