import Automation.Time.Zone.Basic

/-!
# Time zones: Africa

Zones with the same history since 1970 share a row.
-/

namespace Automation.Time.Zone

/-- The rows of Africa. -/
def africaRows : List Row := [
  ⟨["Africa/Abidjan", "Africa/Accra", "Africa/Bamako", "Africa/Banjul", "Africa/Conakry",
    "Africa/Dakar", "Africa/Freetown", "Africa/Lome", "Africa/Nouakchott", "Africa/Ouagadougou",
    "Africa/Timbuktu", "Atlantic/Reykjavik", "Atlantic/St_Helena", "Etc/GMT", "Etc/GMT+0",
    "Etc/GMT-0", "Etc/GMT0", "Etc/Greenwich", "Etc/UCT", "Etc/UTC", "Etc/Universal", "Etc/Zulu",
    "Factory", "GMT", "UTC", "localtime"], 0, [], none⟩,
  ⟨["Africa/Addis_Ababa", "Africa/Asmara", "Africa/Dar_es_Salaam", "Africa/Djibouti",
    "Africa/Kampala", "Africa/Mogadishu", "Africa/Nairobi", "Antarctica/Syowa", "Asia/Aden",
    "Asia/Kuwait", "Asia/Riyadh", "Etc/GMT-3", "Indian/Antananarivo", "Indian/Comoro",
    "Indian/Mayotte"], 10800, [], none⟩,
  ⟨["Africa/Algiers"], 0,
    ["tr0o+4 9i80+0 3if7c+4 jvk0+8 b8jc+4 omhc+0 b8jc+4 bo3c+0 b8co+4"], none⟩,
  ⟨["Africa/Bangui", "Africa/Brazzaville", "Africa/Douala", "Africa/Kinshasa", "Africa/Lagos",
    "Africa/Libreville", "Africa/Luanda", "Africa/Malabo", "Africa/Niamey", "Africa/Porto-Novo",
    "Etc/GMT-1"], 3600, [], none⟩,
  ⟨["Africa/Bissau"], -3600,
    ["34ubc+0"], none⟩,
  ⟨["Africa/Blantyre", "Africa/Bujumbura", "Africa/Gaborone", "Africa/Harare",
    "Africa/Johannesburg", "Africa/Kigali", "Africa/Lubumbashi", "Africa/Lusaka", "Africa/Maputo",
    "Africa/Maseru", "Africa/Mbabane", "Etc/GMT-2"], 7200, [], none⟩,
  ⟨["Africa/Cairo"], 7200,
    ["7j0o+12 9g3c+8 d30o+12 9g3c+8 d58o+12 9g3c+8 d30o+12 9g3c+8 d30o+12 9g3c+8 d30o+12 9g3c+8",
     "d58o+12 9g3c+8 d30o+12 9g3c+8 d30o+12 9g3c+8 d30o+12 9g3c+8 d58o+12 9g3c+8 d30o+12 9g3c+8",
     "ibwo+12 477c+8 hj0o+12 503c+8 d58o+12 9g3c+8 d30o+12 9g3c+8 d30o+12 9g3c+8 d30o+12 9g3c+8",
     "d58o+12 9g3c+8 de4o+12 94zc+8 d30o+12 9g3c+8 d30o+12 9g3c+8 d58o+12 9g3c+8 d30o+12 9g3c+8",
     "d30o+12 9g3c+8 cw9c+12 9i4o+8 cyrc+12 9i4o+8 cyrc+12 9i4o+8 cyrc+12 9i4o+8 debc+12 9i4o+8",
     "cyrc+12 9i4o+8 cyrc+12 9i4o+8 cyrc+12 9i4o+8 cyrc+12 9i4o+8 debc+12 9i4o+8 cyrc+12 9i4o+8",
     "cyrc+12 92ko+8 debc+12 87go+8 e9fc+12 7rwo+8 eozc+12 7cco+8 fk3c+12 6cso+8 1urc+12 1ako+8",
     "29o3c+12 2l8o+8 25vc+12 3gco+8 5dkzc+12"],
    some ⟨7200, 10800, ⟨4, 5, 5, 0⟩, ⟨10, 5, 4, 86400⟩⟩⟩,
  ⟨["Africa/Casablanca"], 0,
    ["2t1s0+4 498o+0 11j7c+4 5oco+0 gurc+4 998o+0 f6rc+4 3y4o+0 3ilvc+4 14hoo+0 e1dfc+4 5oco+0",
     "gurc+4 4zwo+0 fojc+4 61oo+0 eozc+4 7cco+0 guy0+4 5280+0 1ww0+4 2j40+0 cyo0+4 4bk0+0 23k0+4",
     "4tc0+0 9i80+4 5k00+0 25s0+4 58w0+0 9i80+4 4r40+0 25s0+4 61s0+0 9i80+4 4bk0+0 25s0+4 6ww0+0",
     "92o0+4 3gg0+0 2lc0+4 7cg0+0 92o0+4 30w0+0 25s0+4 jvk0+0 25s0+4 jg00+0 2lc0+4 jg00+0 25s0+4",
     "jg00+0 2lc0+4 jg00+0 25s0+4 jvk0+0 25s0+4 jg00+0 2lc0+4 jg00+0 25s0+4 jvk0+0 25s0+4 jg00+0",
     "2lc0+4 jg00+0 25s0+4 jg00+0 2lc0+4 jg00+0 25s0+4 jvk0+0 25s0+4 jg00+0 2lc0+4 jg00+0 25s0+4",
     "jg00+0 2lc0+4 jg00+0 2lc0+4 jg00+0 25s0+4 jg00+0 2lc0+4 jg00+0 25s0+4 jvk0+0 25s0+4 jg00+0",
     "2lc0+4 jg00+0 25s0+4 jg00+0 2lc0+4 jg00+0 2lc0+4 jg00+0 25s0+4 jg00+0 2lc0+4 jg00+0 25s0+4",
     "jvk0+0 25s0+4 jg00+0 2lc0+4 jg00+0 25s0+4 jg00+0 2lc0+4 jg00+0 2lc0+4 jg00+0 25s0+4 jg00+0",
     "2lc0+4 jg00+0 25s0+4 jvk0+0 25s0+4 jg00+0 2lc0+4 jg00+0 25s0+4 jg00+0 2lc0+4 jg00+0 2lc0+4",
     "jg00+0 25s0+4 jg00+0 2lc0+4 jg00+0 25s0+4 jvk0+0 25s0+4 jg00+0 2lc0+4 jg00+0 25s0+4 jg00+0",
     "2lc0+4 jg00+0 2lc0+4 jg00+0 25s0+4 jg00+0 2lc0+4 jg00+0 25s0+4 jvk0+0 25s0+4 jg00+0 2lc0+4",
     "jg00+0 25s0+4 jg00+0 2lc0+4 jg00+0 2lc0+4 jg00+0 25s0+4 jg00+0 2lc0+4 jg00+0 25s0+4 jvk0+0",
     "25s0+4 jg00+0 2lc0+4 jg00+0 25s0+4 jg00+0 2lc0+4 jg00+0 25s0+4 jvk0+0 25s0+4 jg00+0 2lc0+4",
     "jg00+0 25s0+4 jvk0+0 25s0+4 jg00+0 2lc0+4"], none⟩,
  ⟨["Africa/Ceuta"], 0,
    ["2t1s0+4 498o+0 11j7c+4 5oco+0 gurc+4 998o+0 f6rc+4 3y4o+0 3ilvc+4 19xfc+8 b8g0+4 b8g0+8",
     "b8g0+4 b8g0+8 b8g0+4 b8g0+8 b8g0+4 b8g0+8 bo00+4 b8g0+8 b8g0+4 b8g0+8 b8g0+4 b8g0+8 b8g0+4",
     "b8g0+8 b8g0+4 b8g0+8 b8g0+4 bo00+8"],
    some ⟨3600, 7200, ⟨3, 5, 0, 7200⟩, ⟨10, 5, 0, 10800⟩⟩⟩,
  ⟨["Africa/El_Aaiun"], -3600,
    ["3xsjc+0 11oo+4 5oco+0 gurc+4 998o+0 f6rc+4 3y4o+0 iogzc+4 5oco+0 gurc+4 4zwo+0 fojc+4",
     "61oo+0 eozc+4 7cco+0 guy0+4 5280+0 1ww0+4 2j40+0 cyo0+4 4bk0+0 23k0+4 4tc0+0 9i80+4 5k00+0",
     "25s0+4 58w0+0 9i80+4 4r40+0 25s0+4 61s0+0 9i80+4 4bk0+0 25s0+4 6ww0+0 92o0+4 3gg0+0 2lc0+4",
     "7cg0+0 92o0+4 30w0+0 25s0+4 jvk0+0 25s0+4 jg00+0 2lc0+4 jg00+0 25s0+4 jg00+0 2lc0+4 jg00+0",
     "25s0+4 jvk0+0 25s0+4 jg00+0 2lc0+4 jg00+0 25s0+4 jvk0+0 25s0+4 jg00+0 2lc0+4 jg00+0 25s0+4",
     "jg00+0 2lc0+4 jg00+0 25s0+4 jvk0+0 25s0+4 jg00+0 2lc0+4 jg00+0 25s0+4 jg00+0 2lc0+4 jg00+0",
     "2lc0+4 jg00+0 25s0+4 jg00+0 2lc0+4 jg00+0 25s0+4 jvk0+0 25s0+4 jg00+0 2lc0+4 jg00+0 25s0+4",
     "jg00+0 2lc0+4 jg00+0 2lc0+4 jg00+0 25s0+4 jg00+0 2lc0+4 jg00+0 25s0+4 jvk0+0 25s0+4 jg00+0",
     "2lc0+4 jg00+0 25s0+4 jg00+0 2lc0+4 jg00+0 2lc0+4 jg00+0 25s0+4 jg00+0 2lc0+4 jg00+0 25s0+4",
     "jvk0+0 25s0+4 jg00+0 2lc0+4 jg00+0 25s0+4 jg00+0 2lc0+4 jg00+0 2lc0+4 jg00+0 25s0+4 jg00+0",
     "2lc0+4 jg00+0 25s0+4 jvk0+0 25s0+4 jg00+0 2lc0+4 jg00+0 25s0+4 jg00+0 2lc0+4 jg00+0 2lc0+4",
     "jg00+0 25s0+4 jg00+0 2lc0+4 jg00+0 25s0+4 jvk0+0 25s0+4 jg00+0 2lc0+4 jg00+0 25s0+4 jg00+0",
     "2lc0+4 jg00+0 2lc0+4 jg00+0 25s0+4 jg00+0 2lc0+4 jg00+0 25s0+4 jvk0+0 25s0+4 jg00+0 2lc0+4",
     "jg00+0 25s0+4 jg00+0 2lc0+4 jg00+0 25s0+4 jvk0+0 25s0+4 jg00+0 2lc0+4 jg00+0 25s0+4 jvk0+0",
     "25s0+4 jg00+0 2lc0+4"], none⟩,
  ⟨["Africa/Juba"], 7200,
    ["7ixc+12 ab0o+8 c5vc+12 ad8o+8 c83c+12 ad8o+8 c3nc+12 afgo+8 c1fc+12 ahoo+8 bz7c+12 ajwo+8",
     "bwzc+12 aoco+8 bsjc+12 aqko+8 c5vc+12 ad8o+8 c3nc+12 afgo+8 c1fc+12 ajwo+8 bwzc+12 am4o+8",
     "burc+12 aoco+8 bsjc+12 aqko+8 c5vc+12 afgo+8 c1fc+12 ahoo+8 8xbvc+12 d6j8o+8"], none⟩,
  ⟨["Africa/Khartoum"], 7200,
    ["7ixc+12 ab0o+8 c5vc+12 ad8o+8 c83c+12 ad8o+8 c3nc+12 afgo+8 c1fc+12 ahoo+8 bz7c+12 ajwo+8",
     "bwzc+12 aoco+8 bsjc+12 aqko+8 c5vc+12 ad8o+8 c3nc+12 afgo+8 c1fc+12 ajwo+8 bwzc+12 am4o+8",
     "burc+12 aoco+8 bsjc+12 aqko+8 c5vc+12 afgo+8 c1fc+12 ahoo+8 8xbvc+12 b578o+8"], none⟩,
  ⟨["Africa/Monrovia"], -2670,
    ["19k2h+0"], none⟩,
  ⟨["Africa/Ndjamena"], 3600,
    ["64oco+8 90co+4"], none⟩,
  ⟨["Africa/Sao_Tome"], 0,
    ["u2cjc+4 mj40+0"], none⟩,
  ⟨["Africa/Tripoli"], 7200,
    ["7io9c+4 5k3c+8 bako+4 b8jc+8 bako+4 barc+8 bako+4 bjnc+8 azgo+4 bf7c+8 b8co+4 b43c+8 bako+4",
     "barc+8 bako+4 b8jc+8 bako+4 d9vc+8 40i4o+4 bhfc+8 9rsjc+4 8kw0+8"], none⟩,
  ⟨["Africa/Tunis"], 3600,
    ["4lb0o+8 92o0+4 dio0+8 9g00+4 61yo0+8 75s0+4 b8g0+8 b8g0+4 dio0+8 9ds0+4 94ts0+8 9dvc+4",
     "axfc+8 de80+4 92o0+8 de80+4 9i80+8 cyo0+4"], none⟩,
  ⟨["Africa/Windhoek"], 7200,
    ["f63tc+4 abe0+8 cyko+4 9ibc+8 de4o+4 92rc+8 de4o+4 9ibc+8 cyko+4 9ibc+8 cyko+4 9ibc+8 cyko+4",
     "9ibc+8 cyko+4 9ibc+8 de4o+4 92rc+8 de4o+4 9ibc+8 cyko+4 9ibc+8 cyko+4 9ibc+8 cyko+4 9ibc+8",
     "cyko+4 9ibc+8 de4o+4 9ibc+8 cyko+4 9ibc+8 cyko+4 9ibc+8 cyko+4 9ibc+8 cyko+4 9ibc+8 de4o+4",
     "92rc+8 de4o+4 9ibc+8 cyko+4 9ibc+8 cyko+4 9ibc+8 cyko+4 9ibc+8"], none⟩]

end Automation.Time.Zone
