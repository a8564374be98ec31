import Timetable.Text.Words

/-
  This file lists the regions that a locale may name.

  Key definitions include:
    * `countries`
    * `areas`
    * `region?`
    * `renamedRegions`
-/

namespace Timetable.Text.Subtag

------------------------------------------------------------
-- Regions
------------------------------------------------------------

/-
  The regions with a code of two letters.  Each word is that
  code with the other codes of the region: one of three
  letters, and one of three digits.
-/
def countries : List String :=
  words
    ("AA-AAA-958 AC-ASC AD-AND-020 AE-ARE-784 AF-AFG-004 AG-ATG-028 AI-AIA-660 " ++
    "AL-ALB-008 AM-ARM-051 AN-ANT-530 AO-AGO-024 AQ-ATA-010 AR-ARG-032 " ++
    "AS-ASM-016 AT-AUT-040 AU-AUS-036 AW-ABW-533 AX-ALA-248 AZ-AZE-031 " ++
    "BA-BIH-070 BB-BRB-052 BD-BGD-050 BE-BEL-056 BF-BFA-854 BG-BGR-100 " ++
    "BH-BHR-048 BI-BDI-108 BJ-BEN-204 BL-BLM-652 BM-BMU-060 BN-BRN-096 " ++
    "BO-BOL-068 BQ-BES-535 BR-BRA-076 BS-BHS-044 BT-BTN-064 BU-BUR BV-BVT-074 " ++
    "BW-BWA-072 BY-BLR-112 BZ-BLZ-084 CA-CAN-124 CC-CCK-166 CD-COD-180 " ++
    "CF-CAF-140 CG-COG-178 CH-CHE-756 CI-CIV-384 CK-COK-184 CL-CHL-152 " ++
    "CM-CMR-120 CN-CHN-156 CO-COL-170 CP-CPT CR-CRI-188 CS-SCG-891 CT-CTE " ++
    "CU-CUB-192 CV-CPV-132 CW-CUW-531 CX-CXR-162 CY-CYP-196 CZ-CZE-203 " ++
    "DD-DDR-278 DE-DEU-276 DG-DGA DJ-DJI-262 DK-DNK-208 DM-DMA-212 DO-DOM-214 " ++
    "DY-DHY DZ-DZA-012 EA EC-ECU-218 EE-EST-233 EG-EGY-818 EH-ESH-732 " ++
    "ER-ERI-232 ES-ESP-724 ET-ETH-231 EU-967 EZ FI-FIN-246 FJ-FJI-242 " ++
    "FK-FLK-238 FM-FSM-583 FO-FRO-234 FQ FR-FRA-250 FX-FXX-249 GA-GAB-266 " ++
    "GB-GBR-826 GD-GRD-308 GE-GEO-268 GF-GUF-254 GG-GGY-831 GH-GHA-288 " ++
    "GI-GIB-292 GL-GRL-304 GM-GMB-270 GN-GIN-324 GP-GLP-312 GQ-GNQ-226 " ++
    "GR-GRC-300 GS-SGS-239 GT-GTM-320 GU-GUM-316 GW-GNB-624 GY-GUY-328 " ++
    "HK-HKG-344 HM-HMD-334 HN-HND-340 HR-HRV-191 HT-HTI-332 HU-HUN-348 HV-HVO " ++
    "IC ID-IDN-360 IE-IRL-372 IL-ISR-376 IM-IMN-833 IN-IND-356 IO-IOT-086 " ++
    "IQ-IRQ-368 IR-IRN-364 IS-ISL-352 IT-ITA-380 JE-JEY-832 JM-JAM-388 " ++
    "JO-JOR-400 JP-JPN-392 JT-JTN KE-KEN-404 KG-KGZ-417 KH-KHM-116 KI-KIR-296 " ++
    "KM-COM-174 KN-KNA-659 KP-PRK-408 KR-KOR-410 KW-KWT-414 KY-CYM-136 " ++
    "KZ-KAZ-398 LA-LAO-418 LB-LBN-422 LC-LCA-662 LI-LIE-438 LK-LKA-144 " ++
    "LR-LBR-430 LS-LSO-426 LT-LTU-440 LU-LUX-442 LV-LVA-428 LY-LBY-434 " ++
    "MA-MAR-504 MC-MCO-492 MD-MDA-498 ME-MNE-499 MF-MAF-663 MG-MDG-450 " ++
    "MH-MHL-584 MI-MID MK-MKD-807 ML-MLI-466 MM-MMR-104 MN-MNG-496 MO-MAC-446 " ++
    "MP-MNP-580 MQ-MTQ-474 MR-MRT-478 MS-MSR-500 MT-MLT-470 MU-MUS-480 " ++
    "MV-MDV-462 MW-MWI-454 MX-MEX-484 MY-MYS-458 MZ-MOZ-508 NA-NAM-516 " ++
    "NC-NCL-540 NE-NER-562 NF-NFK-574 NG-NGA-566 NH-NHB NI-NIC-558 NL-NLD-528 " ++
    "NO-NOR-578 NP-NPL-524 NQ-ATN NR-NRU-520 NT-NTZ-536 NU-NIU-570 NZ-NZL-554 " ++
    "OM-OMN-512 PA-PAN-591 PC-PCI PE-PER-604 PF-PYF-258 PG-PNG-598 PH-PHL-608 " ++
    "PK-PAK-586 PL-POL-616 PM-SPM-666 PN-PCN-612 PR-PRI-630 PS-PSE-275 " ++
    "PT-PRT-620 PU-PUS PW-PLW-585 PY-PRY-600 PZ-PCZ QA-QAT-634 QM-QMM-959 " ++
    "QN-QNN-960 QO-QOO-961 QP-QPP-962 QQ-QQQ-963 QR-QRR-964 QS-QSS-965 " ++
    "QT-QTT-966 QU-QUU QV-QVV-968 QW-QWW-969 QX-QXX-970 QY-QYY-971 QZ-QZZ-972 " ++
    "RE-REU-638 RH-RHO RO-ROU-642 RS-SRB-688 RU-RUS-643 RW-RWA-646 SA-SAU-682 " ++
    "SB-SLB-090 SC-SYC-690 SD-SDN-729 SE-SWE-752 SG-SGP-702 SH-SHN-654 " ++
    "SI-SVN-705 SJ-SJM-744 SK-SVK-703 SL-SLE-694 SM-SMR-674 SN-SEN-686 " ++
    "SO-SOM-706 SR-SUR-740 SS-SSD-728 ST-STP-678 SU-SUN-810 SV-SLV-222 " ++
    "SX-SXM-534 SY-SYR-760 SZ-SWZ-748 TA-TAA TC-TCA-796 TD-TCD-148 TF-ATF-260 " ++
    "TG-TGO-768 TH-THA-764 TJ-TJK-762 TK-TKL-772 TL-TLS-626 TM-TKM-795 " ++
    "TN-TUN-788 TO-TON-776 TP-TMP TR-TUR-792 TT-TTO-780 TV-TUV-798 TW-TWN-158 " ++
    "TZ-TZA-834 UA-UKR-804 UG-UGA-800 UK UM-UMI-581 UN US-USA-840 UY-URY-858 " ++
    "UZ-UZB-860 VA-VAT-336 VC-VCT-670 VD-VDR VE-VEN-862 VG-VGB-092 VI-VIR-850 " ++
    "VN-VNM-704 VU-VUT-548 WF-WLF-876 WK-WAK WS-WSM-882 XA-XAA-973 XB-XBB-974 " ++
    "XC-XCC-975 XD-XDD-976 XE-XEE-977 XF-XFF-978 XG-XGG-979 XH-XHH-980 " ++
    "XI-XII-981 XJ-XJJ-982 XK-XKK-983 XL-XLL-984 XM-XMM-985 XN-XNN-986 " ++
    "XO-XOO-987 XP-XPP-988 XQ-XQQ-989 XR-XRR-990 XS-XSS-991 XT-XTT-992 " ++
    "XU-XUU-993 XV-XVV-994 XW-XWW-995 XX-XXX-996 XY-XYY-997 XZ-XZZ-998 " ++
    "YD-YMD-720 YE-YEM-887 YT-MYT-175 YU-YUG ZA-ZAF-710 ZM-ZMB-894 ZR-ZAR " ++
    "ZW-ZWE-716 ZZ-ZZZ-999")

/- Further numbers of countries. -/
def formerNumbers : List (String × String) :=
  wordPairs "230-ET 280-DE 736-SD 886-YE"

/- The regions that have only a number. -/
def areas : List String :=
  words
    ("001 002 003 005 009 011 013 014 015 017 018 019 021 029 030 034 035 039 " ++
    "053 054 057 061 142 143 145 150 151 154 155 202 419")

/- The country that has a code. -/
private def country? (code : String) : Option String :=
  match countries.find? (fun w => (split '-' w).contains code) with
  | some w => (split '-' w).head?
  | none => (formerNumbers.find? (fun p => p.1 == code)).map (·.2)

/- The region that a subtag in capitals names. -/
def region? (s : String) : Option String :=
  if areas.contains s then some s else country? s

/- Regions under a former code, each with the code in use today. -/
def renamedRegions : List (String × String) :=
  wordPairs
    ("BU-MM CT-KI DD-DE DY-BJ FX-FR HV-BF JT-UM MI-UM NH-VU NQ-AQ PU-UM PZ-PA " ++
    "QU-EU RH-ZW TP-TL UK-GB VD-VN WK-UM YD-YE ZR-CD")

end Timetable.Text.Subtag
