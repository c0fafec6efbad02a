import Automation.Time.Zone.Basic

/-!
# Time zones: the oceans, Australia and Antarctica

Zones with the same history since 1970 share a row.
-/

namespace Automation.Time.Zone

/-- The rows of the oceans, Australia and Antarctica. -/
def oceanRows : List Row := [
  ⟨["Antarctica/Casey"], 28800,
    ["oxbw0+44 8ie0+32 11620+44 77wo+32 2x6ko+44 v6bc+32 cyy0+44 9xeo+32 cey0+44 9me0+32 cyo2+44",
     "9xhy+32 cje2+44 9xhy+32 cje2+44 9r3y+32"], none⟩,
  ⟨["Antarctica/Davis"], 25200,
    ["oxbzc+20 8w3c+28 10sco+20 783c+28"], none⟩,
  ⟨["Antarctica/DumontDUrville", "Etc/GMT-10", "Pacific/Chuuk", "Pacific/Port_Moresby",
    "Pacific/Yap"], 36000, [], none⟩,
  ⟨["Antarctica/Macquarie"], 39600,
    ["46dc+40 e9c0+44 8n40+40 e9c0+44 7cg0+40 f4g0+44 7s00+40 eow0+44 7s00+40 eow0+44 7s00+40",
     "eow0+44 87k0+40 eow0+44 7s00+40 eow0+44 7s00+40 eow0+44 7s00+40 eow0+44 7s00+40 eow0+44",
     "7s00+40 eow0+44 9i80+40 de80+44 92o0+40 de80+44 7s00+40 eow0+44 7s00+40 eow0+44 7s00+40",
     "e9c0+44 92o0+40 dts0+44 92o0+40 dts0+44 8n40+40 dts0+44 8n40+40 dts0+44 9i80+40 bo00+44",
     "asw0+40 bo00+44 asw0+40 bo00+44 asw0+40 bo00+44 asw0+40 bo00+44 b8g0+40 bo00+44 asw0+40",
     "bo00+44 asw0+40 bo00+44 asw0+40 bo00+44 asw0+40 9i80+44 cyo0+40 c3k0+44 asw0+40 bo00+44",
     "asw0+40 bo00+44 asw0+40 bo00+44 asw0+40 bo00+44 b8g0+40 b8g0+44 asw0+40 c3k0+44 b8g0+40",
     "b8g0+44 b8g0+40 b8g0+44 xpc0+40"],
    some ⟨36000, 39600, ⟨10, 1, 0, 7200⟩, ⟨4, 1, 0, 10800⟩⟩⟩,
  ⟨["Antarctica/Mawson"], 21600,
    ["oxc2o+20"], none⟩,
  ⟨["Antarctica/McMurdo", "Pacific/Auckland"], 43200,
    ["3166o+52 6ww0+48 f4g0+52 87k0+48 eow0+52 7s00+48 eow0+52 7s00+48 eow0+52 7s00+48 eow0+52",
     "7s00+48 eow0+52 7s00+48 eow0+52 87k0+48 eow0+52 7s00+48 eow0+52 7s00+48 eow0+52 7s00+48",
     "eow0+52 7s00+48 eow0+52 7s00+48 eow0+52 87k0+48 eow0+52 7s00+48 de80+52 9xs0+48 cj40+52",
     "9xs0+48 cj40+52 9xs0+48 cj40+52 adc0+48 c3k0+52 adc0+48 c3k0+52 adc0+48 c3k0+52 adc0+48",
     "cj40+52 9xs0+48 cj40+52 9xs0+48 cj40+52 adc0+48 c3k0+52 adc0+48 c3k0+52 adc0+48 cj40+52",
     "9xs0+48 cj40+52 9xs0+48 cj40+52 adc0+48 c3k0+52 adc0+48 c3k0+52 adc0+48 c3k0+52 adc0+48",
     "c3k0+52"],
    some ⟨43200, 46800, ⟨9, 5, 0, 7200⟩, ⟨4, 1, 0, 10800⟩⟩⟩,
  ⟨["Antarctica/Palmer"], -10800,
    ["2joa0-8 61oo-12 50dfc-16 a03c-12 9i4o-16 cyrc-12 9i4o-16 debc-12 92ko-16 debc-12 92ko-16",
     "debc-12 b8co-16 b8jc-12 9i4o-16 cyrc-12 9i4o-16 debc-12 92ko-16 bo3c-12 asso-16 debc-12",
     "9i4o-16 cyrc-12 9i4o-16 cyrc-12 9i4o-16 cyrc-12 9i4o-16 debc-12 92ko-16 debc-12 ad8o-16",
     "c3nc-12 9i4o-16 c3nc-12 bnwo-16 bo3c-12 9i4o-16 debc-12 92ko-16 debc-12 92ko-16 debc-12",
     "92ko-16 debc-12 9i4o-16 cyrc-12 9i4o-16 cyrc-12 9i4o-16 debc-12 92ko-16 debc-12 ad8o-16",
     "c3nc-12 9i4o-16 cyrc-12 asso-16 bo3c-12 cyko-16 6hfc-12 fjwo-16 7s3c-12 eoso-16 87nc-12",
     "e98o-16 87nc-12 120so-16 5mbc-12"], none⟩,
  ⟨["Antarctica/Rothera"], 0,
    ["4c1s0-12"], none⟩,
  ⟨["Antarctica/Troll"], 0,
    ["m2ibc+8"],
    some ⟨0, 7200, ⟨3, 5, 0, 3600⟩, ⟨10, 5, 0, 10800⟩⟩⟩,
  ⟨["Antarctica/Vostok"], 25200,
    ["f34oo+0 gvbc+28 i8prc+20"], none⟩,
  ⟨["Atlantic/Azores"], -3600,
    ["7nznc+0 b8g0-4 b8g0+0 b8g0-4 b8g0+0 bo00-4 b8g0+0 b8g0-4 b8g0+0 b8g0-4 b8g0+0 b8g0-4 b8g0+0",
     "b8g0-4 b8g0+0 b8g0-4 b8g0+0 bo00-4 b8g0+0 b8g0-4 b8g0+0 b8g0-4 5mbc+0 5m4o+4 5000+0 68g0-4",
     "b8g0+0 b8g0-4 b8g0+0 b8g0-4 bo00+0"],
    some ⟨-3600, 0, ⟨3, 5, 0, 0⟩, ⟨10, 5, 0, 3600⟩⟩⟩,
  ⟨["Atlantic/Bermuda"], -14400,
    ["2pjo0-12 b8co-16 b8jc-12 b8co-16 b8jc-12 bnwo-16 aszc-12 bnwo-16 b8jc-12 b8co-16 b8jc-12",
     "b8co-16 b8jc-12 b8co-16 b8jc-12 b8co-16 b8jc-12 bnwo-16 aszc-12 bnwo-16 b8jc-12 b8co-16",
     "b8jc-12 b8co-16 b8jc-12 b8co-16 9xvc-12 cj0o-16 9xvc-12 cyko-16 9ibc-12 cyko-16 9ibc-12",
     "cyko-16 9xvc-12 cj0o-16 9xvc-12 cj0o-16 9xvc-12 cyko-16 9ibc-12 cyko-16 9ibc-12 cyko-16",
     "9xvc-12 cj0o-16 9xvc-12 cj0o-16 9xvc-12 cj0o-16 9xvc-12 cyko-16 9ibc-12 cyko-16 9ibc-12",
     "cyko-16 9xvc-12 cj0o-16 9xvc-12 cj0o-16 9xvc-12 cyko-16 9ibc-12 cyko-16 9ibc-12 cyko-16",
     "87nc-12"],
    some ⟨-14400, -10800, ⟨3, 2, 0, 7200⟩, ⟨11, 1, 0, 7200⟩⟩⟩,
  ⟨["Atlantic/Canary"], 0,
    ["6fhc0+4 aszc+0 b8g0+4 b8g0+0 b8g0+4 b8g0+0 b8g0+4 b8g0+0 b8g0+4 bo00+0 b8g0+4 b8g0+0 b8g0+4",
     "b8g0+0 b8g0+4 b8g0+0 b8g0+4 b8g0+0 b8g0+4 b8g0+0 b8g0+4 bo00+0 b8g0+4 b8g0+0 b8g0+4 b8g0+0",
     "b8g0+4 b8g0+0 b8g0+4 b8g0+0 b8g0+4 b8g0+0 bo00+4"],
    some ⟨0, 3600, ⟨3, 5, 0, 3600⟩, ⟨10, 5, 0, 7200⟩⟩⟩,
  ⟨["Atlantic/Cape_Verde"], -7200,
    ["3p3hc-4"], none⟩,
  ⟨["Atlantic/Faroe"], 0,
    ["71irc+4 b8g0+0 b8g0+4 b8g0+0 b8g0+4 b8g0+0 b8g0+4 bo00+0 b8g0+4 b8g0+0 b8g0+4 b8g0+0 b8g0+4",
     "b8g0+0 b8g0+4 b8g0+0 b8g0+4 b8g0+0 b8g0+4 bo00+0 b8g0+4 b8g0+0 b8g0+4 b8g0+0 b8g0+4 b8g0+0",
     "b8g0+4 b8g0+0 b8g0+4 b8g0+0 bo00+4"],
    some ⟨0, 3600, ⟨3, 5, 0, 3600⟩, ⟨10, 5, 0, 7200⟩⟩⟩,
  ⟨["Atlantic/Madeira"], 0,
    ["7of40+4 asw0+0 b8g0+4 b8g0+0 b8g0+4 bo00+0 b8g0+4 b8g0+0 b8g0+4 b8jc+0 b8g0+4 b8g0+0 b8g0+4",
     "b8g0+0 b8g0+4 b8g0+0 b8g0+4 bo00+0 b8g0+4 b8g0+0 b8g0+4 b8g0+0 b8g0+4 b8g0+0 b8g0+4 b8g0+0",
     "b8g0+4 b8g0+0 bo00+4"],
    some ⟨0, 3600, ⟨3, 5, 0, 3600⟩, ⟨10, 5, 0, 7200⟩⟩⟩,
  ⟨["Atlantic/South_Georgia", "Etc/GMT+2"], -7200, [], none⟩,
  ⟨["Atlantic/Stanley"], -14400,
    ["8cmlc-12 92ko-8 de4o-12 8n7c-8 dtoo-12 m1fc-16 92rc-12 de4o-16 92rc-12 de4o-16 92rc-12",
     "de4o-16 92rc-12 dtoo-16 8n7c-12 dtoo-16 92rc-12 de4o-16 92rc-12 de4o-16 92rc-12 de4o-16",
     "92rc-12 de4o-16 92rc-12 dtoo-16 92rc-12 de4o-16 92rc-12 de4o-16 92rc-12 de4o-16 92rc-12",
     "de4o-16 92rc-12 debc-16 8n7c-12 e98o-16 87nc-12 e98o-16 8n7c-12 dtoo-16 8n7c-12 dtoo-16",
     "8n7c-12 dtoo-16 8n7c-12 dtoo-16 8n7c-12 e98o-16 8n7c-12 dtoo-16 8n7c-12 dtoo-16 8n7c-12"],
    none⟩,
  ⟨["Australia/Adelaide"], 34200,
    ["15c70+42 7cg0+38 f4g0+42 7s00+38 eow0+42 7s00+38 eow0+42 7s00+38 eow0+42 87k0+38 eow0+42",
     "7s00+38 eow0+42 7s00+38 eow0+42 7s00+38 eow0+42 7s00+38 eow0+42 7s00+38 eow0+42 87k0+38",
     "eow0+42 7s00+38 eow0+42 7s00+38 eow0+42 7s00+38 eow0+42 8n40+38 de80+42 92o0+38 dts0+42",
     "92o0+38 dts0+42 8n40+38 dts0+42 8n40+38 dts0+42 7s00+38 eow0+42 92o0+38 de80+42 87k0+38",
     "eow0+42 8n40+38 dts0+42 92o0+38 de80+42 9i80+38 cyo0+42 9i80+38 cyo0+42 9i80+38 cyo0+42",
     "9i80+38 de80+42 92o0+38 de80+42 92o0+38 de80+42 9i80+38 cyo0+42 9i80+38 cyo0+42 9i80+38",
     "de80+42 92o0+38 de80+42 9i80+38 cyo0+42 92o0+38 de80+42 9xs0+38"],
    some ⟨34200, 37800, ⟨10, 1, 0, 7200⟩, ⟨4, 1, 0, 10800⟩⟩⟩,
  ⟨["Australia/Brisbane"], 36000,
    ["15c5c+44 7cg0+40 b2e80+44 7s00+40 eow0+44 7s00+40 eow0+44 7s00+40"], none⟩,
  ⟨["Australia/Broken_Hill", "Australia/Yancowinna"], 34200,
    ["15c70+42 7cg0+38 f4g0+42 7s00+38 eow0+42 7s00+38 eow0+42 7s00+38 eow0+42 87k0+38 eow0+42",
     "7s00+38 eow0+42 7s00+38 eow0+42 7s00+38 eow0+42 7s00+38 eow0+42 7s00+38 eow0+42 9xs0+38",
     "cyo0+42 7s00+38 eow0+42 7s00+38 eow0+42 7s00+38 eow0+42 8n40+38 de80+42 92o0+38 dts0+42",
     "92o0+38 dts0+42 8n40+38 dts0+42 7s00+38 eow0+42 7s00+38 eow0+42 7s00+38 eow0+42 87k0+38",
     "eow0+42 7s00+38 eow0+42 7s00+38 eow0+42 9i80+38 cyo0+42 9i80+38 cyo0+42 9i80+38 cyo0+42",
     "9i80+38 de80+42 92o0+38 de80+42 92o0+38 de80+42 9i80+38 cyo0+42 9i80+38 cyo0+42 9i80+38",
     "de80+42 92o0+38 de80+42 9i80+38 cyo0+42 92o0+38 de80+42 9xs0+38"],
    some ⟨34200, 37800, ⟨10, 1, 0, 7200⟩, ⟨4, 1, 0, 10800⟩⟩⟩,
  ⟨["Australia/Canberra", "Australia/Sydney"], 36000,
    ["15c5c+44 7cg0+40 f4g0+44 7s00+40 eow0+44 7s00+40 eow0+44 7s00+40 eow0+44 87k0+40 eow0+44",
     "7s00+40 eow0+44 7s00+40 eow0+44 7s00+40 eow0+44 7s00+40 eow0+44 7s00+40 eow0+44 9xs0+40",
     "cyo0+44 7s00+40 eow0+44 7s00+40 eow0+44 7s00+40 eow0+44 8n40+40 de80+44 92o0+40 dts0+44",
     "92o0+40 dts0+44 8n40+40 dts0+44 7s00+40 eow0+44 7s00+40 eow0+44 7s00+40 eow0+44 87k0+40",
     "eow0+44 7s00+40 eow0+44 7s00+40 eow0+44 9i80+40 cyo0+44 9i80+40 cyo0+44 9i80+40 cyo0+44",
     "9i80+40 de80+44 92o0+40 9i80+44 cyo0+40 de80+44 9i80+40 cyo0+44 9i80+40 cyo0+44 9i80+40",
     "de80+44 92o0+40 de80+44 9i80+40 cyo0+44 92o0+40 de80+44 9xs0+40"],
    some ⟨36000, 39600, ⟨10, 1, 0, 7200⟩, ⟨4, 1, 0, 10800⟩⟩⟩,
  ⟨["Australia/Currie", "Australia/Hobart"], 39600,
    ["46dc+40 e9c0+44 8n40+40 e9c0+44 7cg0+40 f4g0+44 7s00+40 eow0+44 7s00+40 eow0+44 7s00+40",
     "eow0+44 87k0+40 eow0+44 7s00+40 eow0+44 7s00+40 eow0+44 7s00+40 eow0+44 7s00+40 eow0+44",
     "7s00+40 eow0+44 9i80+40 de80+44 92o0+40 de80+44 7s00+40 eow0+44 7s00+40 eow0+44 7s00+40",
     "e9c0+44 92o0+40 dts0+44 92o0+40 dts0+44 8n40+40 dts0+44 8n40+40 dts0+44 9i80+40 bo00+44",
     "asw0+40 bo00+44 asw0+40 bo00+44 asw0+40 bo00+44 asw0+40 bo00+44 b8g0+40 bo00+44 asw0+40",
     "bo00+44 asw0+40 bo00+44 asw0+40 bo00+44 asw0+40 9i80+44 cyo0+40 c3k0+44 asw0+40 bo00+44",
     "asw0+40 bo00+44 asw0+40 bo00+44 asw0+40 bo00+44 b8g0+40 b8g0+44 asw0+40 c3k0+44"],
    some ⟨36000, 39600, ⟨10, 1, 0, 7200⟩, ⟨4, 1, 0, 10800⟩⟩⟩,
  ⟨["Australia/Darwin"], 34200, [], none⟩,
  ⟨["Australia/Eucla"], 31500,
    ["30qxi+39 7s00+35 5fb40+39 7s00+35 4tpc0+39 6hc0+35 98ps0+39 6ww0+35 de80+39 9i80+35 cyo0+39",
     "9i80+35"], none⟩,
  ⟨["Australia/Lindeman"], 36000,
    ["15c5c+44 7cg0+40 b2e80+44 7s00+40 eow0+44 7s00+40 eow0+44 7s00+40 eow0+44 87k0+40 eow0+44",
     "7s00+40"], none⟩,
  ⟨["Australia/Lord_Howe"], 36000,
    ["6zrio+42 ep10+46 87go+42 eozc+46 7rwo+42 eozc+46 7rwo+42 eozc+46 7rwo+42 eozc+44 8n2c+42",
     "de9o+44 92mc+42 dtto+44 92mc+42 dtto+44 8n2c+42 dtto+44 7ryc+42 eoxo+44 7ryc+42 eoxo+44",
     "7ryc+42 eoxo+44 87ic+42 eoxo+44 7ryc+42 eoxo+44 7ryc+42 eoxo+44 9i6c+42 cypo+44 9i6c+42",
     "cypo+44 9i6c+42 cypo+44 9i6c+42 de9o+44 92mc+42 9i9o+44 cymc+42 de9o+44 9i6c+42 cypo+44",
     "9i6c+42 cypo+44 9i6c+42 de9o+44 92mc+42 de9o+44 9i6c+42 cypo+44 92mc+42 de9o+44 9xqc+42"],
    some ⟨37800, 39600, ⟨10, 1, 0, 7200⟩, ⟨4, 1, 0, 7200⟩⟩⟩,
  ⟨["Australia/Melbourne"], 36000,
    ["15c5c+44 7cg0+40 f4g0+44 7s00+40 eow0+44 7s00+40 eow0+44 7s00+40 eow0+44 87k0+40 eow0+44",
     "7s00+40 eow0+44 7s00+40 eow0+44 7s00+40 eow0+44 7s00+40 eow0+44 7s00+40 eow0+44 87k0+40",
     "eow0+44 7s00+40 eow0+44 7s00+40 eow0+44 7s00+40 eow0+44 8n40+40 de80+44 92o0+40 de80+44",
     "9i80+40 dts0+44 8n40+40 dts0+44 8n40+40 dts0+44 7s00+40 eow0+44 7s00+40 eow0+44 87k0+40",
     "eow0+44 7s00+40 eow0+44 92o0+40 de80+44 9i80+40 cyo0+44 9i80+40 cyo0+44 9i80+40 cyo0+44",
     "9i80+40 de80+44 92o0+40 9i80+44 cyo0+40 de80+44 9i80+40 cyo0+44 9i80+40 cyo0+44 9i80+40",
     "de80+44 92o0+40 de80+44 9i80+40 cyo0+44 92o0+40 de80+44 9xs0+40"],
    some ⟨36000, 39600, ⟨10, 1, 0, 7200⟩, ⟨4, 1, 0, 10800⟩⟩⟩,
  ⟨["Australia/Perth"], 28800,
    ["30r00+36 7s00+32 5fb40+36 7s00+32 4tpc0+36 6hc0+32 98ps0+36 6ww0+32 de80+36 9i80+32 cyo0+36",
     "9i80+32"], none⟩,
  ⟨["Indian/Chagos"], 18000,
    ["gaa7c+24"], none⟩,
  ⟨["Indian/Mauritius"], 14400,
    ["802qo+20 9zwo+16 g18a0+20 9i4o+16"], none⟩,
  ⟨["Pacific/Apia"], -39600,
    ["pijoo-40 bm20-44 asw0-40 5z6o+56 5otc+52 b8g0+56 bo00+52 asw0+56 bo00+52 asw0+56 bo00+52",
     "asw0+56 bo00+52 asw0+56 bo00+52 asw0+56 bo00+52 b8g0+56 bo00+52 asw0+56 bo00+52 asw0+56",
     "bo00+52"], none⟩,
  ⟨["Pacific/Bougainville"], 36000,
    ["s6f9c+44"], none⟩,
  ⟨["Pacific/Chatham"], 45900,
    ["3166o+55 6ww0+51 f4g0+55 87k0+51 eow0+55 7s00+51 eow0+55 7s00+51 eow0+55 7s00+51 eow0+55",
     "7s00+51 eow0+55 7s00+51 eow0+55 87k0+51 eow0+55 7s00+51 eow0+55 7s00+51 eow0+55 7s00+51",
     "eow0+55 7s00+51 eow0+55 7s00+51 eow0+55 87k0+51 eow0+55 7s00+51 de80+55 9xs0+51 cj40+55",
     "9xs0+51 cj40+55 9xs0+51 cj40+55 adc0+51 c3k0+55 adc0+51 c3k0+55 adc0+51 c3k0+55 adc0+51",
     "cj40+55 9xs0+51 cj40+55 9xs0+51 cj40+55 adc0+51 c3k0+55 adc0+51 c3k0+55 adc0+51 cj40+55",
     "9xs0+51 cj40+55 9xs0+51 cj40+55 adc0+51 c3k0+55 adc0+51 c3k0+55 adc0+51 c3k0+55 adc0+51",
     "c3k0+55"],
    some ⟨45900, 49500, ⟨9, 5, 0, 9900⟩, ⟨4, 1, 0, 13500⟩⟩⟩,
  ⟨["Pacific/Easter"], -21600,
    ["5i20-28 c3nc-24 9i4o-28 cyrc-24 9i4o-28 debc-24 92ko-28 cj7c-24 9xoo-28 debc-24 92ko-28",
     "debc-24 9i4o-28 cyrc-24 9i4o-28 cyrc-24 9i4o-28 debc-24 92ko-28 debc-24 92ko-28 debc-24",
     "9i4o-28 cyrc-24 mgw0-20 9i4o-24 cyrc-20 9i4o-24 debc-20 92ko-24 debc-20 92ko-24 debc-20",
     "b8co-24 b8jc-20 9i4o-24 cyrc-20 9i4o-24 debc-20 92ko-24 bo3c-20 asso-24 debc-20 9i4o-24",
     "cyrc-20 9i4o-24 cyrc-20 9i4o-24 cyrc-20 9i4o-24 debc-20 92ko-24 debc-20 ad8o-24 c3nc-20",
     "9i4o-24 c3nc-20 bnwo-24 bo3c-20 9i4o-24 debc-20 92ko-24 debc-20 92ko-24 debc-20 92ko-24",
     "debc-20 9i4o-24 cyrc-20 9i4o-24 cyrc-20 9i4o-24 debc-20 92ko-24 debc-20 ad8o-24 c3nc-20",
     "9i4o-24 cyrc-20 asso-24 bo3c-20 cyko-24 6hfc-20 fjwo-24 7s3c-20 eoso-24 87nc-20 e98o-24",
     "87nc-20 120so-24 5mbc-20 guko-24 5mbc-20 guko-24 5mbc-20 eoso-24 9ibc-20 cyko-24 9ibc-20",
     "cyko-24 9ibc-20 cyko-24 9xvc-20 cj0o-24"],
    some ⟨-21600, -18000, ⟨9, 1, 6, 79200⟩, ⟨4, 1, 6, 79200⟩⟩⟩,
  ⟨["Pacific/Efate"], 39600,
    ["2hq00+48 61s0+44 5xw3c+48 b8co+44 b8jc+48 b8co+44 bo3c+48 asso+44 bo3c+48 b8co+44 b8jc+48",
     "b8co+44 b8jc+48 b8co+44 b8jc+48 b8co+44 b8jc+48 b8co+44 bo3c+48 7cco+44 gurc+48 5m4o+44"],
    none⟩,
  ⟨["Pacific/Fakaofo"], -39600,
    ["qaxwo+52"], none⟩,
  ⟨["Pacific/Fiji"], 43200,
    ["i25qo+52 7cg0+48 fk00+52 6ww0+48 63xs0+52 7cg0+48 cyo0+52 87k0+48 e9c0+52 5m80+48 guo0+52",
     "5m80+48 ha80+52 56ko+48 hpvc+52 4r40+48 hps0+52 4r40+48 i5c0+52 4bk0+48 i5c0+52 4bk0+48",
     "i5c0+52 4bk0+48 ikw0+52 3w00+48 l680+52 1q80+48"], none⟩,
  ⟨["Pacific/Galapagos"], -18000,
    ["a0vko-24 4bqrc-20 498o-24"], none⟩,
  ⟨["Pacific/Guam", "Pacific/Saipan"], 36000,
    ["779c+44 87go+40 e9fc+44 87go+40 1ff7c+44 4bgo+40 1eqrc+44 5fgq+40 f4ja+44 7rwo+40"],
    none⟩,
  ⟨["Pacific/Kanton"], -43200,
    ["63wo0-44 9jtoo+52"], none⟩,
  ⟨["Pacific/Kiritimati"], -38400,
    ["63wjk-40 9jtps+56"], none⟩,
  ⟨["Pacific/Kosrae"], 43200,
    ["i5x40+44"], none⟩,
  ⟨["Pacific/Kwajalein"], -43200,
    ["et200+48"], none⟩,
  ⟨["Pacific/Marquesas"], -34200, [], none⟩,
  ⟨["Pacific/Nauru"], 41400,
    ["5pgwc+48"], none⟩,
  ⟨["Pacific/Norfolk"], 41400,
    ["30qoc+50 7s00+46 pf6o0+44 2ib5o+48"],
    some ⟨39600, 43200, ⟨10, 1, 0, 7200⟩, ⟨4, 1, 0, 10800⟩⟩⟩,
  ⟨["Pacific/Noumea"], 39600,
    ["4yqjc+48 58so+44 h83c+48 5b0o+44 b4fu0+48 5m80+44"], none⟩,
  ⟨["Pacific/Pitcairn"], -30600,
    ["hqloc-32"], none⟩,
  ⟨["Pacific/Rarotonga"], -37800,
    ["5jyr0-38 6wso-40 eoxo-38 7ryc-40 eoxo-38 7ryc-40 eoxo-38 87ic-40 eoxo-38 7ryc-40 eoxo-38",
     "7ryc-40 eoxo-38 7ryc-40 eoxo-38 7ryc-40 eoxo-38 7ryc-40 eoxo-38 87ic-40 eoxo-38 7ryc-40",
     "eoxo-38 7ryc-40 eoxo-38 7ryc-40"], none⟩,
  ⟨["Pacific/Tongatapu"], 46800,
    ["in57c+56 a4g0+52 e9c0+56 56ko+52 habc+56 56ko+52 995fc+56 4bk0+52"], none⟩]

end Automation.Time.Zone
