import Automation.Time.Zone.Basic

/-!
# Time zones: Europe

Zones with the same history since 1970 share a row.
-/

namespace Automation.Time.Zone

/-- The rows of Europe. -/
def europeRows : List Row := [
  ⟨["Arctic/Longyearbyen", "Atlantic/Jan_Mayen", "Europe/Berlin", "Europe/Copenhagen",
    "Europe/Oslo", "Europe/Stockholm"], 3600,
    ["6fhfc+8 asw0+4 b8g0+8 b8g0+4 b8g0+8 b8g0+4 b8g0+8 b8g0+4 b8g0+8 bo00+4 b8g0+8 b8g0+4 b8g0+8",
     "b8g0+4 b8g0+8 b8g0+4 b8g0+8 b8g0+4 b8g0+8 b8g0+4 b8g0+8 bo00+4 b8g0+8 b8g0+4 b8g0+8 b8g0+4",
     "b8g0+8 b8g0+4 b8g0+8 b8g0+4 b8g0+8 b8g0+4 bo00+8"],
    some ⟨3600, 7200, ⟨3, 5, 0, 7200⟩, ⟨10, 5, 0, 10800⟩⟩⟩,
  ⟨["Europe/Andorra"], 3600,
    ["9jtvc+8 b8g0+4 b8g0+8 b8g0+4 b8g0+8 b8g0+4 b8g0+8 b8g0+4 b8g0+8 b8g0+4 b8g0+8 bo00+4 b8g0+8",
     "b8g0+4 b8g0+8 b8g0+4 b8g0+8 b8g0+4 b8g0+8 b8g0+4 b8g0+8 b8g0+4 bo00+8"],
    some ⟨3600, 7200, ⟨3, 5, 0, 7200⟩, ⟨10, 5, 0, 10800⟩⟩⟩,
  ⟨["Europe/Astrakhan"], 14400,
    ["71oyo+20 bako+16 b8jc+20 bako+16 b8jc+20 bako+16 barc+20 b8mo+16 b8g0+20 b8g0+16 b8g0+20",
     "b8g0+16 b8g0+20 b8g0+16 b8g0+20 b8g0+16 mgzc+12 b8g0+16 bo00+12 b8g0+16 xpc0+12 b8g0+16",
     "b8g0+12 b8g0+16 b8g0+12 b8g0+16 b8g0+12 bo00+16 cyo0+12 9i80+16 cyo0+12 9i80+16 cyo0+12",
     "9i80+16 de80+12 92o0+16 de80+12 92o0+16 de80+12 9i80+16 cyo0+12 9i80+16 cyo0+12 9i80+16",
     "de80+12 92o0+16 de80+12 92o0+16 de80+12 92o0+16 de80+12 9i80+16 cyo0+12 9i80+16 cyo0+12",
     "9i80+16 de80+12 92o0+16 28sso+12 vz7c+16"], none⟩,
  ⟨["Europe/Athens"], 7200,
    ["3b2hc+12 e2o0+8 8gmo+12 b8g0+8 asw0+12 av40+8 bls0+12 aszc+8 bok0+12 b5hc+8 bf0o+12 b3wo+8",
     "b8tc+12 b8g0+8 b8g0+12 b8g0+8 b8g0+12 b8g0+8 b8g0+12 bo00+8 b8g0+12 b8g0+8 b8g0+12 b8g0+8",
     "b8g0+12 b8g0+8 b8g0+12 b8g0+8 b8g0+12 b8g0+8 b8g0+12 bo00+8 b8g0+12 b8g0+8 b8g0+12 b8g0+8",
     "b8g0+12 b8g0+8 b8g0+12 b8g0+8 b8g0+12 b8g0+8 bo00+12"],
    some ⟨7200, 10800, ⟨3, 5, 0, 10800⟩, ⟨10, 5, 0, 14400⟩⟩⟩,
  ⟨["Europe/Belfast", "Europe/Guernsey", "Europe/Isle_of_Man", "Europe/Jersey", "Europe/London"],
    3600,
    ["15d2o+0 8n40+4 dts0+0 8n40+4 dts0+0 8n40+4 dts0+0 8n40+4 dts0+0 92o0+4 de80+0 92o0+4 de80+0",
     "92o0+4 dts0+0 8n40+4 dts0+0 8n40+4 dts0+0 9i4o+4 cyo0+0 9i80+4 cyo0+0 9i80+4 cyo0+0 9i80+4",
     "de80+0 9i80+4 cyo0+0 9i80+4 cyo0+0 9i80+4 cyo0+0 9i80+4 cyo0+0 9i80+4 de80+0 92o0+4 de80+0",
     "9i80+4 cyo0+0 9i80+4 cyo0+0 9i80+4 cyo0+0 9i80+4 cyo0+0 9i80+4 cyo0+0 9xs0+4"],
    some ⟨0, 3600, ⟨3, 5, 0, 3600⟩, ⟨10, 5, 0, 7200⟩⟩⟩,
  ⟨["Europe/Belgrade", "Europe/Ljubljana", "Europe/Podgorica", "Europe/Sarajevo", "Europe/Skopje",
    "Europe/Zagreb"], 3600,
    ["8agjc+8 b8g0+4 b8g0+8 bo00+4 b8g0+8 b8g0+4 b8g0+8 b8g0+4 b8g0+8 b8g0+4 b8g0+8 b8g0+4 b8g0+8",
     "b8g0+4 b8g0+8 bo00+4 b8g0+8 b8g0+4 b8g0+8 b8g0+4 b8g0+8 b8g0+4 b8g0+8 b8g0+4 b8g0+8 b8g0+4",
     "bo00+8"],
    some ⟨3600, 7200, ⟨3, 5, 0, 7200⟩, ⟨10, 5, 0, 10800⟩⟩⟩,
  ⟨["Europe/Bratislava", "Europe/Prague"], 3600,
    ["5skzc+8 b8g0+4 bo00+8 asw0+4 b8g0+8 b8g0+4 b8g0+8 b8g0+4 b8g0+8 b8g0+4 b8g0+8 bo00+4 b8g0+8",
     "b8g0+4 b8g0+8 b8g0+4 b8g0+8 b8g0+4 b8g0+8 b8g0+4 b8g0+8 b8g0+4 b8g0+8 bo00+4 b8g0+8 b8g0+4",
     "b8g0+8 b8g0+4 b8g0+8 b8g0+4 b8g0+8 b8g0+4 b8g0+8 b8g0+4 bo00+8"],
    some ⟨3600, 7200, ⟨3, 5, 0, 7200⟩, ⟨10, 5, 0, 10800⟩⟩⟩,
  ⟨["Europe/Bucharest"], 7200,
    ["5w15c+12 7rwo+8 bo00+12 aszc+8 b8mo+12 b8g0+8 b8g0+12 b8g0+8 b8g0+12 b8g0+8 b8g0+12 bo00+8",
     "b8g0+12 b8g0+8 b8g0+12 b8g0+8 b8g0+12 b8g0+8 b8g0+12 b8g0+8 b8g0+12 b8g0+8 b8g0+12 bo00+8",
     "b89c+12 b8g0+8 b8g0+12 b8g0+8 b8g0+12 b8g0+8 b8g0+12 b8co+8 b8jc+12 b8co+8 bo3c+12 cyko+8",
     "9ilc+12"],
    some ⟨7200, 10800, ⟨3, 5, 0, 10800⟩, ⟨10, 5, 0, 14400⟩⟩⟩,
  ⟨["Europe/Budapest"], 3600,
    ["6fh8o+8 asw0+4 b8g0+8 b8g0+4 b8g0+8 b8g0+4 b8g0+8 b8g0+4 b8mo+8 bo00+4 b8g0+8 b8g0+4 b8g0+8",
     "b8g0+4 b8g0+8 b8g0+4 b8g0+8 b8g0+4 b8g0+8 b8g0+4 b8g0+8 bo00+4 b8g0+8 b8g0+4 b8g0+8 b8g0+4",
     "b8g0+8 b8g0+4 b8g0+8 b8g0+4 b8g0+8 b8g0+4 bo00+8"],
    some ⟨3600, 7200, ⟨3, 5, 0, 7200⟩, ⟨10, 5, 0, 10800⟩⟩⟩,
  ⟨["Europe/Busingen", "Europe/Vaduz", "Europe/Zurich"], 3600,
    ["71irc+8 b8g0+4 b8g0+8 b8g0+4 b8g0+8 b8g0+4 b8g0+8 bo00+4 b8g0+8 b8g0+4 b8g0+8 b8g0+4 b8g0+8",
     "b8g0+4 b8g0+8 b8g0+4 b8g0+8 b8g0+4 b8g0+8 bo00+4 b8g0+8 b8g0+4 b8g0+8 b8g0+4 b8g0+8 b8g0+4",
     "b8g0+8 b8g0+4 b8g0+8 b8g0+4 bo00+8"],
    some ⟨3600, 7200, ⟨3, 5, 0, 7200⟩, ⟨10, 5, 0, 10800⟩⟩⟩,
  ⟨["Europe/Chisinau", "Europe/Tiraspol"], 10800,
    ["71p20+16 bako+12 b8jc+16 bako+12 b8jc+16 bako+12 barc+16 b8mo+12 b8g0+16 b8g0+12 b8g0+16",
     "b8g0+12 b8g0+16 b8g0+12 b8g0+16 b8g0+12 b8g0+16 b8g0+12 b8g0+16 2l8o+12 92uo+8 b8g0+12",
     "b8g0+8 b89c+12 b8co+8 b8jc+12 b8co+8 b8jc+12 b8co+8 b8jc+12 b8co+8 bo3c+12 cyko+8 9ii0+12",
     "cyo0+8 9i80+12 cyo0+8 9i80+12 de80+8 92o0+12 de80+8 92o0+12 de80+8 9i80+12 cyo0+8 9i80+12",
     "cyo0+8 9i80+12 de80+8 92o0+12 de80+8 92o0+12 de80+8 92o0+12 de80+8 9i80+12 cyo0+8 9i80+12",
     "cyo0+8 9i80+12 de80+8 92o0+12 de80+8 92o0+12 de80+8 9i80+12 cyo0+8 9i80+12 cyo0+8 9i80+12",
     "cyo0+8 9i80+12 de80+8 92o0+12 de80+8 92o0+12 de80+8 9i80+12 cyo0+8 9i80+12 cyo0+8 9i80+12",
     "de80+8 92rc+12"],
    some ⟨7200, 10800, ⟨3, 5, 0, 10800⟩, ⟨10, 5, 0, 14400⟩⟩⟩,
  ⟨["Europe/Dublin"], 3600,
    ["15d2o+0 8n40+4 dts0+0 8n40+4 dts0+0 8n40+4 dts0+0 8n40+4 dts0+0 92o0+4 de80+0 92o0+4 de80+0",
     "92o0+4 dts0+0 8n40+4 dts0+0 8n40+4 dts0+0 9i4o+4 cyo0+0 9i80+4 cyo0+0 9i80+4 cyo0+0 9i80+4",
     "de80+0 9i80+4 cyo0+0 9i80+4 cyo0+0 9i80+4 cyo0+0 9i80+4 cyo0+0 9i80+4 de80+0 92o0+4 de80+0",
     "9i80+4 cyo0+0 9i80+4 cyo0+0 9i80+4 cyo0+0 9i80+4 cyo0+0 9i80+4 cyo0+0 9xs0+4"],
    some ⟨0, 3600, ⟨3, 5, 0, 3600⟩, ⟨10, 5, 0, 7200⟩⟩⟩,
  ⟨["Europe/Gibraltar"], 3600,
    ["7nznc+8 b8g0+4 b8g0+8 b8g0+4 b8g0+8 bo00+4 b8g0+8 b8g0+4 b8g0+8 b8g0+4 b8g0+8 b8g0+4 b8g0+8",
     "b8g0+4 b8g0+8 b8g0+4 b8g0+8 bo00+4 b8g0+8 b8g0+4 b8g0+8 b8g0+4 b8g0+8 b8g0+4 b8g0+8 b8g0+4",
     "b8g0+8 b8g0+4 bo00+8"],
    some ⟨3600, 7200, ⟨3, 5, 0, 7200⟩, ⟨10, 5, 0, 10800⟩⟩⟩,
  ⟨["Europe/Helsinki", "Europe/Mariehamn"], 7200,
    ["71io0+12 b8g0+8 b8g0+12 b8g0+8 b8jc+12 b8g0+8 b8g0+12 bo00+8 b8g0+12 b8g0+8 b8g0+12 b8g0+8",
     "b8g0+12 b8g0+8 b8g0+12 b8g0+8 b8g0+12 b8g0+8 b8g0+12 bo00+8 b8g0+12 b8g0+8 b8g0+12 b8g0+8",
     "b8g0+12 b8g0+8 b8g0+12 b8g0+8 b8g0+12 b8g0+8 bo00+12"],
    some ⟨7200, 10800, ⟨3, 5, 0, 10800⟩, ⟨10, 5, 0, 14400⟩⟩⟩,
  ⟨["Europe/Kaliningrad"], 10800,
    ["71p20+16 bako+12 b8jc+16 bako+12 b8jc+16 bako+12 barc+16 b8mo+12 b8g0+16 b8g0+12 b8g0+16",
     "b8g0+12 b8g0+16 b8g0+12 b8g0+16 b8g0+12 mgzc+8 b8g0+12 bo00+8 b8g0+12 b8g0+8 b8g0+12 b8g0+8",
     "b8g0+12 b8g0+8 b8g0+12 b8g0+8 b8g0+12 b8g0+8 bo00+12 cyo0+8 9i80+12 cyo0+8 9i80+12 cyo0+8",
     "9i80+12 de80+8 92o0+12 de80+8 92o0+12 de80+8 9i80+12 cyo0+8 9i80+12 cyo0+8 9i80+12 de80+8",
     "92o0+12 de80+8 92o0+12 de80+8 92o0+12 de80+8 9i80+12 cyo0+8 9i80+12 cyo0+8 9i80+12 de80+8",
     "92o0+12 28sso+8"], none⟩,
  ⟨["Europe/Kirov"], 14400,
    ["71oyo+20 bako+16 b8jc+20 bako+16 b8jc+20 bako+16 barc+20 b8mo+16 b8g0+20 b8g0+16 b8g0+20",
     "b8g0+16 b8g0+20 b8g0+16 b8g0+20 b8g0+16 mgzc+12 b8g0+16 bo00+12 b8g0+16 xpc0+12 b8g0+16",
     "b8g0+12 b8g0+16 b8g0+12 b8g0+16 b8g0+12 bo00+16 cyo0+12 9i80+16 cyo0+12 9i80+16 cyo0+12",
     "9i80+16 de80+12 92o0+16 de80+12 92o0+16 de80+12 9i80+16 cyo0+12 9i80+16 cyo0+12 9i80+16",
     "de80+12 92o0+16 de80+12 92o0+16 de80+12 92o0+16 de80+12 9i80+16 cyo0+12 9i80+16 cyo0+12",
     "9i80+16 de80+12 92o0+16 28sso+12"], none⟩,
  ⟨["Europe/Kyiv"], 10800,
    ["71p20+16 bako+12 b8jc+16 bako+12 b8jc+16 bako+12 barc+16 b8mo+12 b8g0+16 b8g0+12 b8g0+16",
     "b8g0+12 b8g0+16 b8g0+12 b8g0+16 b8g0+12 b8g0+16 b8g0+12 b8g0+16 61oo+12 s3ao+8 b8g0+12",
     "b8g0+8 b8g0+12 b8g0+8 b8g0+12 b8g0+8 b8g0+12 b8g0+8 bo00+12 cyrc+8"],
    some ⟨7200, 10800, ⟨3, 5, 0, 10800⟩, ⟨10, 5, 0, 14400⟩⟩⟩,
  ⟨["Europe/Lisbon"], 3600,
    ["47z40+0 b8g0+4 b8g0+0 bo3c+4 b8g0+0 b8g0+4 b8g0+0 bo00+4 asw0+0 b8co+4 b8g0+0 b8g0+4 b8g0+0",
     "b8g0+4 b8g0+0 b8g0+4 bo00+0 b8g0+4 b8g0+0 b8jc+4 b8g0+0 b8g0+4 b8g0+0 b8g0+4 b8g0+0 b8g0+4",
     "b8g0+0 b8g0+4 bo00+0 b8g0+4 b8g0+0 b8g0+4 mgw0+8 b8g0+4 b8g0+8 b8g0+4 b8g0+8 b8g0+4 omo0+0"],
    some ⟨0, 3600, ⟨3, 5, 0, 3600⟩, ⟨10, 5, 0, 7200⟩⟩⟩,
  ⟨["Europe/Madrid"], 3600,
    ["2ontc+8 aszc+4 bnwo+8 aszc+4 asso+8 b8jc+4 bnwo+8 aszc+4 bo6o+8 b8g0+4 b8g0+8 b8g0+4 bo00+8",
     "asw0+4 b8g0+8 b8g0+4 b8g0+8 b8g0+4 b8g0+8 b8g0+4 b8g0+8 bo00+4 b8g0+8 b8g0+4 b8g0+8 b8g0+4",
     "b8g0+8 b8g0+4 b8g0+8 b8g0+4 b8g0+8 b8g0+4 b8g0+8 bo00+4 b8g0+8 b8g0+4 b8g0+8 b8g0+4 b8g0+8",
     "b8g0+4 b8g0+8 b8g0+4 b8g0+8 b8g0+4 bo00+8"],
    some ⟨3600, 7200, ⟨3, 5, 0, 7200⟩, ⟨10, 5, 0, 10800⟩⟩⟩,
  ⟨["Europe/Malta"], 3600,
    ["9doo+8 7cg0+4 eow0+8 7s00+4 f4g0+8 7s00+4 b680+8 b8g0+4 clc0+8 94w0+4 dc6o+8 9i4o+4 cyrc+8",
     "9i4o+4 cyrc+8 9i4o+4 cyrc+8 9i4o+4 cyrc+8 9i4o+4 c5vc+8 aqko+4 bo3c+8 b8g0+4 b8g0+8 b8g0+4",
     "b8g0+8 b8g0+4 b8g0+8 bo00+4 b8g0+8 b8g0+4 b8g0+8 b8g0+4 b8g0+8 b8g0+4 b8g0+8 b8g0+4 b8g0+8",
     "b8g0+4 b8g0+8 bo00+4 b8g0+8 b8g0+4 b8g0+8 b8g0+4 b8g0+8 b8g0+4 b8g0+8 b8g0+4 b8g0+8 b8g0+4",
     "bo00+8"],
    some ⟨3600, 7200, ⟨3, 5, 0, 7200⟩, ⟨10, 5, 0, 10800⟩⟩⟩,
  ⟨["Europe/Minsk"], 10800,
    ["71p20+16 bako+12 b8jc+16 bako+12 b8jc+16 bako+12 barc+16 b8mo+12 b8g0+16 b8g0+12 b8g0+16",
     "b8g0+12 b8g0+16 b8g0+12 b8g0+16 b8g0+12 b8g0+16 b8g0+12 19dfc+8 b8g0+12 b8g0+8 b8g0+12",
     "b8g0+8 b8g0+12 b8g0+8 b8g0+12 b8g0+8 bo00+12 cyo0+8 9i80+12 cyo0+8 9i80+12 cyo0+8 9i80+12",
     "de80+8 92o0+12 de80+8 92o0+12 de80+8 9i80+12 cyo0+8 9i80+12 cyo0+8 9i80+12 de80+8 92o0+12",
     "de80+8 92o0+12 de80+8 92o0+12 de80+8 9i80+12 cyo0+8 9i80+12 cyo0+8 9i80+12 de80+8 92o0+12"],
    none⟩,
  ⟨["Europe/Monaco", "Europe/Paris"], 3600,
    ["3wqo0+8 b8co+4 bo6o+8 asw0+4 bo00+8 b8g0+4 b8g0+8 b8g0+4 bo00+8 asw0+4 b8g0+8 b8g0+4 b8g0+8",
     "b8g0+4 b8g0+8 b8g0+4 b8g0+8 bo00+4 b8g0+8 b8g0+4 b8g0+8 b8g0+4 b8g0+8 b8g0+4 b8g0+8 b8g0+4",
     "b8g0+8 b8g0+4 b8g0+8 bo00+4 b8g0+8 b8g0+4 b8g0+8 b8g0+4 b8g0+8 b8g0+4 b8g0+8 b8g0+4 b8g0+8",
     "b8g0+4 bo00+8"],
    some ⟨3600, 7200, ⟨3, 5, 0, 7200⟩, ⟨10, 5, 0, 10800⟩⟩⟩,
  ⟨["Europe/Moscow"], 10800,
    ["71p20+16 bako+12 b8jc+16 bako+12 b8jc+16 bako+12 barc+16 b8mo+12 b8g0+16 b8g0+12 b8g0+16",
     "b8g0+12 b8g0+16 b8g0+12 b8g0+16 b8g0+12 b8g0+16 b8g0+12 b8g0+16 bo00+12 mgzc+8 6ww0+12",
     "4bgo+16 b8g0+12 b8g0+16 b8g0+12 b8g0+16 b8g0+12 b8g0+16 b8g0+12 bo00+16 cyo0+12 9i80+16",
     "cyo0+12 9i80+16 cyo0+12 9i80+16 de80+12 92o0+16 de80+12 92o0+16 de80+12 9i80+16 cyo0+12",
     "9i80+16 cyo0+12 9i80+16 de80+12 92o0+16 de80+12 92o0+16 de80+12 92o0+16 de80+12 9i80+16",
     "cyo0+12 9i80+16 cyo0+12 9i80+16 de80+12 92o0+16 28sso+12"], none⟩,
  ⟨["Europe/Riga"], 10800,
    ["71p20+16 bako+12 b8jc+16 bako+12 b8jc+16 bako+12 barc+16 b8mo+12 b8g0+16 b8g0+12 b8g0+16",
     "b8g0+12 b8g0+16 b8g0+12 b8g0+16 b8g0+12 mgzc+8 b8g0+12 bo00+8 b8g0+12 b8g0+8 b8g0+12 b8g0+8",
     "b8g0+12 b8g0+8 b8g0+12 b8g0+8 b8g0+12 b8g0+8 bo00+12 b8g0+8 b8jc+12 cyo0+8 9i80+12 cyo0+8",
     "9i80+12 de80+8 vjk0+12"],
    some ⟨7200, 10800, ⟨3, 5, 0, 10800⟩, ⟨10, 5, 0, 14400⟩⟩⟩,
  ⟨["Europe/Rome", "Europe/San_Marino", "Europe/Vatican"], 3600,
    ["9doo+8 7cg0+4 eow0+8 7s00+4 f4g0+8 7s00+4 f4g0+8 7cg0+4 eow0+8 7s00+4 f4g0+8 7cg0+4 f4g0+8",
     "7cg0+4 eow0+8 7s00+4 f4g0+8 7s00+4 eow0+8 7s00+4 bo6o+8 asw0+4 b8g0+8 b8g0+4 b8g0+8 b8g0+4",
     "b8g0+8 b8g0+4 b8g0+8 bo00+4 b8g0+8 b8g0+4 b8g0+8 b8g0+4 b8g0+8 b8g0+4 b8g0+8 b8g0+4 b8g0+8",
     "b8g0+4 b8g0+8 bo00+4 b8g0+8 b8g0+4 b8g0+8 b8g0+4 b8g0+8 b8g0+4 b8g0+8 b8g0+4 b8g0+8 b8g0+4",
     "bo00+8"],
    some ⟨3600, 7200, ⟨3, 5, 0, 7200⟩, ⟨10, 5, 0, 10800⟩⟩⟩,
  ⟨["Europe/Samara"], 14400,
    ["71oyo+20 bako+16 b8jc+20 bako+16 b8jc+20 bako+16 barc+20 b8mo+16 b8g0+20 b8g0+16 b8g0+20",
     "b8g0+16 b8g0+20 b8g0+16 b8g0+20 b8g0+16 mgzc+12 b8g0+16 bo00+12 nrnc+16 9xlc+20 b8g0+16",
     "b8g0+20 b8g0+16 b8g0+20 b8g0+16 b8g0+20 b8g0+16 bo00+20 cyo0+16 9i80+20 cyo0+16 9i80+20",
     "cyo0+16 9i80+20 de80+16 92o0+20 de80+16 92o0+20 de80+16 9i80+20 cyo0+16 9i80+20 cyo0+16",
     "9i80+20 de80+16 92o0+20 de80+16 92o0+20 de80+16 92o0+20 de80+16 9i80+20 cyo0+16 9i80+20",
     "cyo0+16 mwjc+12 92o0+16"], none⟩,
  ⟨["Europe/Saratov"], 14400,
    ["71oyo+20 bako+16 b8jc+20 bako+16 b8jc+20 bako+16 barc+20 b8mo+16 b8g0+20 b8g0+16 b8g0+20",
     "b8g0+16 b8g0+20 b8g0+16 mgzc+12 b8g0+16 b8g0+12 b8g0+16 bo00+12 b8g0+16 xpc0+12 b8g0+16",
     "b8g0+12 b8g0+16 b8g0+12 b8g0+16 b8g0+12 bo00+16 cyo0+12 9i80+16 cyo0+12 9i80+16 cyo0+12",
     "9i80+16 de80+12 92o0+16 de80+12 92o0+16 de80+12 9i80+16 cyo0+12 9i80+16 cyo0+12 9i80+16",
     "de80+12 92o0+16 de80+12 92o0+16 de80+12 92o0+16 de80+12 9i80+16 cyo0+12 9i80+16 cyo0+12",
     "9i80+16 de80+12 92o0+16 28sso+12 1bj7c+16"], none⟩,
  ⟨["Europe/Simferopol"], 10800,
    ["71p20+16 bako+12 b8jc+16 bako+12 b8jc+16 bako+12 barc+16 b8mo+12 b8g0+16 b8g0+12 b8g0+16",
     "b8g0+12 b8g0+16 b8g0+12 b8g0+16 b8g0+12 b8g0+16 b8g0+12 ha80+8 13bnc+12 b8g0+8 b8g0+12",
     "b8g0+8 b8g0+12 25i0+16 92uo+12 b8g0+16 b8g0+12 bntc+16 cyy0+12 mgzc+8 9i80+12 cyo0+8",
     "9i80+12 de80+8 92o0+12 de80+8 92o0+12 de80+8 9i80+12 cyo0+8 9i80+12 cyo0+8 9i80+12 de80+8",
     "92o0+12 de80+8 92o0+12 de80+8 92o0+12 de80+8 9i80+12 cyo0+8 9i80+12 cyo0+8 9i80+12 de80+8",
     "92o0+12 de80+8 92o0+12 de80+8 9i80+12 cyo0+8 9i4o+16 cyhc+12"], none⟩,
  ⟨["Europe/Sofia"], 7200,
    ["5skm0+12 barc+8 bloo+12 av7c+8 bloo+12 at2o+8 bntc+12 at60+8 b8g0+12 b8g0+8 b8g0+12 bo00+8",
     "b8g0+12 b8g0+8 b8g0+12 b8g0+8 b8g0+12 b8g0+8 b8g0+12 b8g0+8 b8g0+12 b8g0+8 b8g0+12 bo00+8",
     "b89c+12 b8co+8 b8jc+12 b8co+8 b8jc+12 b8co+8 b8jc+12 b8co+8 b8jc+12 b8co+8 bo3c+12 cyko+8",
     "9ilc+12"],
    some ⟨7200, 10800, ⟨3, 5, 0, 10800⟩, ⟨10, 5, 0, 14400⟩⟩⟩,
  ⟨["Europe/Tallinn"], 10800,
    ["71p20+16 bako+12 b8jc+16 bako+12 b8jc+16 bako+12 barc+16 b8mo+12 b8g0+16 b8g0+12 b8g0+16",
     "b8g0+12 b8g0+16 b8g0+12 b8g0+16 b8g0+12 mgzc+8 b8g0+12 bo00+8 b8g0+12 b8g0+8 b8g0+12 b8g0+8",
     "b8g0+12 b8g0+8 b8g0+12 b8g0+8 b8g0+12 b8g0+8 bo00+12 cyo0+8 9i80+12 cyo0+8 9i80+12 cyrc+8",
     "9i80+12 de80+8 1ig00+12"],
    some ⟨7200, 10800, ⟨3, 5, 0, 10800⟩, ⟨10, 5, 0, 14400⟩⟩⟩,
  ⟨["Europe/Tirane"], 3600,
    ["2pwco+8 9bgo+4 d0zc+8 9i4o+4 d5fc+8 9i4o+4 debc+8 92ko+4 dc3c+8 94so+4 dc3c+8 94so+4 dc3c+8",
     "9i4o+4 clfc+8 9i4o+4 debc+8 9i4o+4 c5vc+8 a8so+4 barc+8 b8mo+4 b8g0+8 b8g0+4 b8g0+8 b8g0+4",
     "b8g0+8 b8g0+4 b8g0+8 b8g0+4 b8g0+8 b8g0+4 b8g0+8 bo00+4 b8g0+8 b8g0+4 b8g0+8 b8g0+4 b8g0+8",
     "b8g0+4 b8g0+8 b8g0+4 b8g0+8 b8g0+4 bo00+8"],
    some ⟨3600, 7200, ⟨3, 5, 0, 7200⟩, ⟨10, 5, 0, 10800⟩⟩⟩,
  ⟨["Europe/Ulyanovsk"], 14400,
    ["71oyo+20 bako+16 b8jc+20 bako+16 b8jc+20 bako+16 barc+20 b8mo+16 b8g0+20 b8g0+16 b8g0+20",
     "b8g0+16 b8g0+20 b8g0+16 b8g0+20 b8g0+16 mgzc+12 b8g0+16 bo00+12 mgzc+8 6ww0+12 4bgo+16",
     "b8g0+12 b8g0+16 b8g0+12 b8g0+16 b8g0+12 b8g0+16 b8g0+12 bo00+16 cyo0+12 9i80+16 cyo0+12",
     "9i80+16 cyo0+12 9i80+16 de80+12 92o0+16 de80+12 92o0+16 de80+12 9i80+16 cyo0+12 9i80+16",
     "cyo0+12 9i80+16 de80+12 92o0+16 de80+12 92o0+16 de80+12 92o0+16 de80+12 9i80+16 cyo0+12",
     "9i80+16 cyo0+12 9i80+16 de80+12 92o0+16 28sso+12 vz7c+16"], none⟩,
  ⟨["Europe/Vienna"], 3600,
    ["6fh8o+8 asso+4 b8q0+8 b8g0+4 b8g0+8 b8g0+4 b8g0+8 b8g0+4 b8g0+8 bo00+4 b8g0+8 b8g0+4 b8g0+8",
     "b8g0+4 b8g0+8 b8g0+4 b8g0+8 b8g0+4 b8g0+8 b8g0+4 b8g0+8 bo00+4 b8g0+8 b8g0+4 b8g0+8 b8g0+4",
     "b8g0+8 b8g0+4 b8g0+8 b8g0+4 b8g0+8 b8g0+4 bo00+8"],
    some ⟨3600, 7200, ⟨3, 5, 0, 7200⟩, ⟨10, 5, 0, 10800⟩⟩⟩,
  ⟨["Europe/Vilnius"], 10800,
    ["71p20+16 bako+12 b8jc+16 bako+12 b8jc+16 bako+12 barc+16 b8mo+12 b8g0+16 b8g0+12 b8g0+16",
     "b8g0+12 b8g0+16 b8g0+12 b8g0+16 b8g0+12 mgzc+8 b8g0+12 bo00+8 b8g0+12 b8g0+8 b8g0+12 b8g0+8",
     "b8g0+12 b8g0+8 b8g0+12 b8g0+8 b8g0+12 b8g0+8 bo00+12 cyo0+8 9i80+12 cyo0+8 mgzc+4 9i80+8",
     "2ib40+12"],
    some ⟨7200, 10800, ⟨3, 5, 0, 10800⟩, ⟨10, 5, 0, 14400⟩⟩⟩,
  ⟨["Europe/Volgograd"], 14400,
    ["71oyo+20 bako+16 b8jc+20 bako+16 b8jc+20 bako+16 barc+20 b8mo+16 b8g0+20 b8g0+16 b8g0+20",
     "b8g0+16 b8g0+20 b8g0+16 mgzc+12 b8g0+16 b8g0+12 b8g0+16 bo00+12 b8g0+16 xpc0+12 b8g0+16",
     "b8g0+12 b8g0+16 b8g0+12 b8g0+16 b8g0+12 bo00+16 cyo0+12 9i80+16 cyo0+12 9i80+16 cyo0+12",
     "9i80+16 de80+12 92o0+16 de80+12 92o0+16 de80+12 9i80+16 cyo0+12 9i80+16 cyo0+12 9i80+16",
     "de80+12 92o0+16 de80+12 92o0+16 de80+12 92o0+16 de80+12 9i80+16 cyo0+12 9i80+16 cyo0+12",
     "9i80+16 de80+12 92o0+16 28sso+12 2ib7c+16 1ctoo+12"], none⟩,
  ⟨["Europe/Warsaw"], 3600,
    ["4jn40+8 asw0+4 bo00+8 b8g0+4 b8g0+8 b8g0+4 bo00+8 asw0+4 b8g0+8 b8g0+4 b8g0+8 b8g0+4 b8g0+8",
     "b8g0+4 b8g0+8 bo00+4 b8g0+8 b8g0+4 b8g0+8 b8g0+4 b8g0+8 b8g0+4 b8jc+8 b8g0+4 b8g0+8 b8g0+4",
     "b8g0+8 bo00+4 b8g0+8 b8g0+4 b8g0+8 b8g0+4 b8g0+8 b8g0+4 b8g0+8 b8g0+4 b8g0+8 b8g0+4 bo00+8"],
    some ⟨3600, 7200, ⟨3, 5, 0, 7200⟩, ⟨10, 5, 0, 10800⟩⟩⟩]

end Automation.Time.Zone
