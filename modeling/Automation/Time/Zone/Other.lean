import Automation.Time.Zone.Basic

/-!
# Time zones: zones that no continent names

Zones with the same history since 1970 share a row.
-/

namespace Automation.Time.Zone

/-- The rows of zones that no continent names. -/
def otherRows : List Row := [
  ⟨["CET", "Europe/Amsterdam", "Europe/Brussels", "Europe/Luxembourg"], 3600,
    ["4jn7c+8 asw0+4 bo00+8 b8g0+4 b8g0+8 b8g0+4 bo00+8 asw0+4 b8g0+8 b8g0+4 b8g0+8 b8g0+4 b8g0+8",
     "b8g0+4 b8g0+8 bo00+4 b8g0+8 b8g0+4 b8g0+8 b8g0+4 b8g0+8 b8g0+4 b8g0+8 b8g0+4 b8g0+8 b8g0+4",
     "b8g0+8 bo00+4 b8g0+8 b8g0+4 b8g0+8 b8g0+4 b8g0+8 b8g0+4 b8g0+8 b8g0+4 b8g0+8 b8g0+4 bo00+8"],
    some ⟨3600, 7200, ⟨3, 5, 0, 7200⟩, ⟨10, 5, 0, 10800⟩⟩⟩,
  ⟨["EET"], 7200,
    ["4jn7c+12 asw0+8 bo00+12 b8g0+8 b8g0+12 b8g0+8 bo00+12 asw0+8 b8g0+12 b8g0+8 b8g0+12 b8g0+8",
     "b8g0+12 b8g0+8 b8g0+12 bo00+8 b8g0+12 b8g0+8 b8g0+12 b8g0+8 b8g0+12 b8g0+8 b8g0+12 b8g0+8",
     "b8g0+12 b8g0+8 b8g0+12 bo00+8 b8g0+12 b8g0+8 b8g0+12 b8g0+8 b8g0+12 b8g0+8 b8g0+12 b8g0+8",
     "b8g0+12 b8g0+8 bo00+12"],
    some ⟨7200, 10800, ⟨3, 5, 0, 10800⟩, ⟨10, 5, 0, 14400⟩⟩⟩,
  ⟨["Etc/GMT+1"], -3600, [], none⟩,
  ⟨["Etc/GMT+10", "HST", "Pacific/Honolulu", "Pacific/Johnston", "Pacific/Tahiti"], -36000, [],
    none⟩,
  ⟨["Etc/GMT+11", "Pacific/Midway", "Pacific/Niue", "Pacific/Pago_Pago", "Pacific/Samoa"],
    -39600, [],
    none⟩,
  ⟨["Etc/GMT+12"], -43200, [], none⟩,
  ⟨["Etc/GMT+8"], -28800, [], none⟩,
  ⟨["Etc/GMT+9", "Pacific/Gambier"], -32400, [], none⟩,
  ⟨["Etc/GMT-11", "Pacific/Guadalcanal", "Pacific/Pohnpei"], 39600, [], none⟩,
  ⟨["Etc/GMT-12", "Pacific/Funafuti", "Pacific/Majuro", "Pacific/Tarawa", "Pacific/Wake",
    "Pacific/Wallis"], 43200, [], none⟩,
  ⟨["Etc/GMT-13"], 46800, [], none⟩,
  ⟨["Etc/GMT-14"], 50400, [], none⟩,
  ⟨["Etc/GMT-5", "Indian/Kerguelen", "Indian/Maldives"], 18000, [], none⟩,
  ⟨["MET"], 3600,
    ["4jn7c+8 asw0+4 bo00+8 b8g0+4 b8g0+8 b8g0+4 bo00+8 asw0+4 b8g0+8 b8g0+4 b8g0+8 b8g0+4 b8g0+8",
     "b8g0+4 b8g0+8 bo00+4 b8g0+8 b8g0+4 b8g0+8 b8g0+4 b8g0+8 b8g0+4 b8g0+8 b8g0+4 b8g0+8 b8g0+4",
     "b8g0+8 bo00+4 b8g0+8 b8g0+4 b8g0+8 b8g0+4 b8g0+8 b8g0+4 b8g0+8 b8g0+4 b8g0+8 b8g0+4 bo00+8"],
    some ⟨3600, 7200, ⟨3, 5, 0, 7200⟩, ⟨10, 5, 0, 10800⟩⟩⟩,
  ⟨["WET"], 0,
    ["4jn7c+4 asw0+0 bo00+4 b8g0+0 b8g0+4 b8g0+0 bo00+4 asw0+0 b8g0+4 b8g0+0 b8g0+4 b8g0+0 b8g0+4",
     "b8g0+0 b8g0+4 bo00+0 b8g0+4 b8g0+0 b8g0+4 b8g0+0 b8g0+4 b8g0+0 b8g0+4 b8g0+0 b8g0+4 b8g0+0",
     "b8g0+4 bo00+0 b8g0+4 b8g0+0 b8g0+4 b8g0+0 b8g0+4 b8g0+0 b8g0+4 b8g0+0 b8g0+4 b8g0+0 bo00+4"],
    some ⟨0, 3600, ⟨3, 5, 0, 3600⟩, ⟨10, 5, 0, 7200⟩⟩⟩]

end Automation.Time.Zone
