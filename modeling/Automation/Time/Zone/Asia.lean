import Automation.Time.Zone.Basic

/-!
# Time zones: Asia

Zones with the same history since 1970 share a row.
-/

namespace Automation.Time.Zone

/-- The rows of Asia. -/
def asiaRows : List Row := [
  ⟨["Asia/Almaty"], 21600,
    ["71os0+28 bako+24 b8jc+28 bako+24 b8jc+28 bako+24 barc+28 b8mo+24 b8g0+28 b8g0+24 b8g0+28",
     "b8g0+24 b8g0+28 b8g0+24 b8g0+28 b8g0+24 b8g0+28 b8g0+24 b8g0+28 bo00+24 mgzc+20 6ww0+24",
     "4bgo+28 b8g0+24 b8g0+28 b8g0+24 b8g0+28 b8g0+24 b8g0+28 b8g0+24 bo00+28 cyo0+24 9i80+28",
     "cyo0+24 9i80+28 cyo0+24 9i80+28 de80+24 92o0+28 de80+24 92o0+28 de80+24 9i80+28 cyo0+24",
     "9i80+28 cyo0+24 9i80+28 de80+24 c3uxc+20"], none⟩,
  ⟨["Asia/Amman"], 7200,
    ["25ehc+12 77wo+8 d37c+12 9fwo+8 d37c+12 9fwo+8 d5fc+12 bcso+8 b6bc+12 9fwo+8 d0zc+12 9fwo+8",
     "42lvc+12 bako+8 bf7c+12 b8co+8 b8jc+12 b8co+8 b8jc+12 bnwo+8 d5fc+12 9bgo+8 cj7c+12 9xoo+8",
     "bz7c+12 a24o+8 c3nc+12 asso+8 b8jc+12 b8co+8 b8jc+12 ad8o+8 cj7c+12 9xs0+8 cj40+12 adc0+8",
     "c3k0+12 adc0+8 c3k0+12 adc0+8 hnk0+12 58w0+8 bls0+12 bao0+8 b680+12 bao0+8 b8g0+12 b8g0+8",
     "b8g0+12 cyo0+8 9i80+12 cj40+8 adc0+12 b8g0+8 b8g0+12 cyo0+8 9i80+12 cyo0+8 9i80+12 de80+8",
     "92o0+12 de80+8 92o0+12 de80+8 9i80+12 cyo0+8 9i80+12 12vwo+8 61vc+12 de80+8 92o0+12 de80+8",
     "9i80+12 cyo0+8 9i80+12 cyo0+8 9i80+12 cyo0+8 9i80+12 cyo0+8 9i80+12 de80+8 92o0+12 de80+8",
     "7cg0+12"], none⟩,
  ⟨["Asia/Anadyr"], 46800,
    ["71o4o+56 bako+52 mj7c+48 b8jc+52 bako+48 barc+52 b8mo+48 b8g0+52 b8g0+48 b8g0+52 b8g0+48",
     "b8g0+52 b8g0+48 b8g0+52 b8g0+48 b8g0+52 b8g0+48 b8g0+52 bo00+48 mgzc+44 6ww0+48 4bgo+52",
     "b8g0+48 b8g0+52 b8g0+48 b8g0+52 b8g0+48 b8g0+52 b8g0+48 bo00+52 cyo0+48 9i80+52 cyo0+48",
     "9i80+52 cyo0+48 9i80+52 de80+48 92o0+52 de80+48 92o0+52 de80+48 9i80+52 cyo0+48 9i80+52",
     "cyo0+48 9i80+52 de80+48 92o0+52 de80+48 92o0+52 de80+48 92o0+52 de80+48 9i80+52 cyo0+48",
     "9i80+52 cyo0+48 mwjc+44 92o0+48"], none⟩,
  ⟨["Asia/Aqtau"], 18000,
    ["7czjc+24 mj0o+20 b8jc+24 bako+20 barc+24 b8mo+20 b8g0+24 b8g0+20 b8g0+24 b8g0+20 b8g0+24",
     "b8g0+20 b8g0+24 b8g0+20 b8g0+24 b8g0+20 b8g0+24 bo00+20 mgzc+16 6ww0+20 4bgo+24 b8g0+20",
     "b8g0+24 b8g0+20 b8g0+24 b8g0+16 b8jc+20 b8g0+16 bo00+20 cyo0+16 9i80+20 cyo0+16 9i80+20",
     "cyo0+16 9i80+20 de80+16 92o0+20 de80+16 92o0+20 de80+16 9i80+20 cyo0+16 9i80+20 cyo0+16",
     "9i80+20"], none⟩,
  ⟨["Asia/Aqtobe"], 18000,
    ["71ovc+24 xtoo+20 b8jc+24 bako+20 barc+24 b8mo+20 b8g0+24 b8g0+20 b8g0+24 b8g0+20 b8g0+24",
     "b8g0+20 b8g0+24 b8g0+20 b8g0+24 b8g0+20 b8g0+24 bo00+20 mgzc+16 6ww0+20 4bgo+24 b8g0+20",
     "b8g0+24 b8g0+20 b8g0+24 b8g0+20 b8g0+24 b8g0+20 bo00+24 cyo0+20 9i80+24 cyo0+20 9i80+24",
     "cyo0+20 9i80+24 de80+20 92o0+24 de80+20 92o0+24 de80+20 9i80+24 cyo0+20 9i80+24 cyo0+20",
     "9i80+24 de80+20"], none⟩,
  ⟨["Asia/Ashgabat"], 18000,
    ["71ovc+24 bako+20 b8jc+24 bako+20 b8jc+24 bako+20 barc+24 b8mo+20 b8g0+24 b8g0+20 b8g0+24",
     "b8g0+20 b8g0+24 b8g0+20 b8g0+24 b8g0+20 b8g0+24 b8g0+20 b8g0+24 bo00+20 mgzc+16 6ww0+20"],
    none⟩,
  ⟨["Asia/Atyrau"], 18000,
    ["7czjc+24 mj0o+20 b8jc+24 bako+20 barc+24 b8mo+20 b8g0+24 b8g0+20 b8g0+24 b8g0+20 b8g0+24",
     "b8g0+20 b8g0+24 b8g0+20 b8g0+24 b8g0+20 b8g0+24 bo00+20 mgzc+16 6ww0+20 4bgo+24 b8g0+20",
     "b8g0+24 b8g0+20 b8g0+24 b8g0+20 b8g0+24 b8g0+20 bo00+24 cyo0+20 9i80+24 cyo0+20 9i80+24",
     "cyo0+20 mwjc+16 92o0+20 de80+16 92o0+20 de80+16 9i80+20 cyo0+16 9i80+20 cyo0+16 9i80+20"],
    none⟩,
  ⟨["Asia/Baghdad"], 10800,
    ["7q2u0+16 9fwo+12 b6bc+16 bcso+12 barc+16 bako+12 b8jc+16 b6bc+12 b8g0+16 b8g0+12 b8g0+16",
     "b8g0+12 b8g0+16 b8g0+12 b8g0+16 b8g0+12 b8g0+16 bo00+12 bauo+16 bao0+12 bao0+16 bao0+12",
     "b8g0+16 bao0+12 b8g0+16 bao0+12 b8g0+16 bao0+12 bao0+16 bao0+12 b8g0+16 bao0+12 b8g0+16",
     "bao0+12 b8g0+16 bao0+12 bao0+16 bao0+12 b8g0+16 bao0+12 b8g0+16 bao0+12 b8g0+16 bao0+12",
     "bao0+16 bao0+12 b8g0+16 bao0+12 b8g0+16 bao0+12 b8g0+16 bao0+12"], none⟩,
  ⟨["Asia/Bahrain", "Asia/Qatar"], 14400,
    ["1ik2o+12"], none⟩,
  ⟨["Asia/Baku"], 14400,
    ["71oyo+20 bako+16 b8jc+20 bako+16 b8jc+20 bako+16 barc+20 b8mo+16 b8g0+20 b8g0+16 b8g0+20",
     "b8g0+16 b8g0+20 b8g0+16 b8g0+20 b8g0+16 b8g0+20 b8g0+16 b8g0+20 bo00+16 mgzc+12 b8g0+16",
     "2ibao+20 cyo0+16 9i4o+20 cyo0+16 9i80+20 cyo0+16 9i80+20 de80+16 92o0+20 de80+16 92o0+20",
     "de80+16 9i80+20 cyo0+16 9i80+20 cyo0+16 9i80+20 de80+16 92o0+20 de80+16 92o0+20 de80+16",
     "92o0+20 de80+16 9i80+20 cyo0+16 9i80+20 cyo0+16 9i80+20 de80+16 92o0+20 de80+16 92o0+20",
     "de80+16 9i80+20 cyo0+16 9i80+20 cyo0+16 9i80+20 cyo0+16"], none⟩,
  ⟨["Asia/Bangkok", "Asia/Jakarta", "Asia/Phnom_Penh", "Asia/Vientiane", "Etc/GMT-7",
    "Indian/Christmas"], 25200, [], none⟩,
  ⟨["Asia/Barnaul"], 25200,
    ["71ooo+32 bako+28 b8jc+32 bako+28 b8jc+32 bako+28 barc+32 b8mo+28 b8g0+32 b8g0+28 b8g0+32",
     "b8g0+28 b8g0+32 b8g0+28 b8g0+32 b8g0+28 b8g0+32 b8g0+28 b8g0+32 bo00+28 mgzc+24 6ww0+28",
     "4bgo+32 b8g0+28 b8g0+32 b8g0+28 b8g0+32 b8g0+28 b8g0+32 3vq0+28 7ctc+24 bo00+28 cyo0+24",
     "9i80+28 cyo0+24 9i80+28 cyo0+24 9i80+28 de80+24 92o0+28 de80+24 92o0+28 de80+24 9i80+28",
     "cyo0+24 9i80+28 cyo0+24 9i80+28 de80+24 92o0+28 de80+24 92o0+28 de80+24 92o0+28 de80+24",
     "9i80+28 cyo0+24 9i80+28 cyo0+24 9i80+28 de80+24 92o0+28 28sso+24 vz7c+28"], none⟩,
  ⟨["Asia/Beirut"], 7200,
    ["1juxc+12 68co+8 d37c+12 9fwo+8 d37c+12 9fwo+8 d37c+12 9fwo+8 d5fc+12 9fwo+8 d37c+12 9fwo+8",
     "d0zc+12 9fwo+8 3hxfc+12 ad8o+8 c5vc+12 ad8o+8 c5vc+12 ad8o+8 c5vc+12 ad8o+8 e4zc+12 8gco+8",
     "cpvc+12 9t8o+8 c5vc+12 ad8o+8 c5vc+12 ad8o+8 c83c+12 9mko+8 aszc+12 b8co+8 b8jc+12 b8co+8",
     "b8jc+12 b8co+8 bo3c+12 b8co+8 b8jc+12 b8co+8 b8jc+12 b8co+8 b8jc+12"],
    some ⟨7200, 10800, ⟨3, 5, 0, 0⟩, ⟨10, 5, 0, 0⟩⟩⟩,
  ⟨["Asia/Bishkek"], 21600,
    ["71os0+28 bako+24 b8jc+28 bako+24 b8jc+28 bako+24 barc+28 b8mo+24 b8g0+28 b8g0+24 b8g0+28",
     "b8g0+24 b8g0+28 b8g0+24 b8g0+28 b8g0+24 b8g0+28 b8g0+24 b8g0+28 bo00+24 kog0+20 dvwo+24",
     "ad8o+20 c3nc+24 ad8o+20 c3nc+24 ad8o+20 c3nc+24 ad8o+20 c3nc+24 asso+20 b8ro+24 cyko+20",
     "9ibc+24 cyko+20 9ibc+24 de4o+20 92rc+24 de4o+20 92rc+24 de4o+20 9ibc+24 cyko+20 9ibc+24",
     "cyko+20 9ibc+24 de4o+20 92rc+24"], none⟩,
  ⟨["Asia/Brunei", "Asia/Kuching", "Asia/Makassar", "Etc/GMT-8"], 28800, [], none⟩,
  ⟨["Asia/Chita"], 32400,
    ["71oi0+40 bako+36 b8jc+40 bako+36 b8jc+40 bako+36 barc+40 b8mo+36 b8g0+40 b8g0+36 b8g0+40",
     "b8g0+36 b8g0+40 b8g0+36 b8g0+40 b8g0+36 b8g0+40 b8g0+36 b8g0+40 bo00+36 mgzc+32 6ww0+36",
     "4bgo+40 b8g0+36 b8g0+40 b8g0+36 b8g0+40 b8g0+36 b8g0+40 b8g0+36 bo00+40 cyo0+36 9i80+40",
     "cyo0+36 9i80+40 cyo0+36 9i80+40 de80+36 92o0+40 de80+36 92o0+40 de80+36 9i80+40 cyo0+36",
     "9i80+40 cyo0+36 9i80+40 de80+36 92o0+40 de80+36 92o0+40 de80+36 92o0+40 de80+36 9i80+40",
     "cyo0+36 9i80+40 cyo0+36 9i80+40 de80+36 92o0+40 28sso+32 vzao+36"], none⟩,
  ⟨["Asia/Choibalsan", "Asia/Ulaanbaatar"], 25200,
    ["50h4o+32 3a9oo+36 bako+32 barc+36 b8co+32 b8jc+36 b8co+32 b8jc+36 b8co+32 b8jc+36 b8co+32",
     "b8jc+36 b8co+32 b8jc+36 b8co+32 b8jc+36 bnwo+32 b8jc+36 b8co+32 b8jc+36 b8co+32 b8jc+36",
     "b8co+32 b8jc+36 b8co+32 b8jc+36 b8co+32 bo3c+36 b8co+32 b8jc+36 b8co+32 b8jc+36 b8co+32",
     "1ma20+36 9i4o+32 b8jc+36 b8co+32 b8jc+36 b8co+32 b8jc+36 b8co+32 b8jc+36 b8co+32 b8jc+36",
     "bnwo+32 5bf7c+36 b860+32 b8q0+36 b860+32"], none⟩,
  ⟨["Asia/Chongqing", "Asia/Harbin", "Asia/Shanghai"], 28800,
    ["a8fw0+36 87go+32 cyrc+36 9i4o+32 debc+36 92ko+32 debc+36 9i4o+32 cyrc+36 9i4o+32 cyrc+36",
     "9i4o+32"], none⟩,
  ⟨["Asia/Colombo"], 19800,
    ["gj8do+26 9i6c+24 5xgho+22"], none⟩,
  ⟨["Asia/Damascus"], 7200,
    ["7j40+12 9fwo+8 d37c+12 9fwo+8 d5fc+12 9fwo+8 d37c+12 9fwo+8 d37c+12 9fwo+8 d37c+12 9fwo+8",
     "d5fc+12 9fwo+8 d37c+12 7l8o+8 exvc+12 7l8o+8 2vrnc+12 asso+8 bsjc+12 asso+8 v1vc+12 ei4o+8",
     "8tvc+12 f24o+8 8ebc+12 e70o+8 9bnc+12 bcso+8 b8jc+12 b8co+8 bako+12 bako+8 bqbc+12 av0o+8",
     "av7c+12 bako+8 blvc+12 bako+8 b8jc+12 bako+8 barc+12 bako+8 b6bc+12 bcso+8 b43c+12 bf0o+8",
     "b8jc+12 bako+8 barc+12 bako+8 b8jc+12 bako+8 b8jc+12 bako+8 b8jc+12 bako+8 barc+12 bako+8",
     "b8jc+12 bako+8 b8jc+12 aqko+8 bo3c+12 de4o+8 9ibc+12 d0so+8 90jc+12 de4o+8 9ibc+12 cyko+8",
     "9ibc+12 cyko+8 9ibc+12 cyko+8 9ibc+12 cyko+8 9ibc+12 de4o+8 92rc+12 de4o+8 92rc+12 de4o+8",
     "9ibc+12 cyko+8 9ibc+12 cyko+8 9ibc+12 cyko+8 9ibc+12 de4o+8 92rc+12 de4o+8 92rc+12"],
    none⟩,
  ⟨["Asia/Dhaka"], 21600,
    ["opx4o+28 c1c0+24"], none⟩,
  ⟨["Asia/Dili"], 32400,
    ["3yxu0+32 f9kjc+36"], none⟩,
  ⟨["Asia/Dubai", "Asia/Muscat", "Etc/GMT-4", "Indian/Mahe", "Indian/Reunion"], 14400, [],
    none⟩,
  ⟨["Asia/Dushanbe"], 21600,
    ["71os0+28 bako+24 b8jc+28 bako+24 b8jc+28 bako+24 barc+28 b8mo+24 b8g0+28 b8g0+24 b8g0+28",
     "b8g0+24 b8g0+28 b8g0+24 b8g0+28 b8g0+24 b8g0+28 b8g0+24 b8g0+28 bo00+24 l8jc+20"], none⟩,
  ⟨["Asia/Famagusta"], 7200,
    ["3b4pc+12 b8co+8 dc3c+12 970o+8 aqrc+12 asso+8 bo3c+12 bako+8 b6bc+12 b8co+8 bo3c+12 asso+8",
     "b8jc+12 b8co+8 b8jc+12 b8co+8 b8jc+12 b8co+8 b8jc+12 bnwo+8 b8jc+12 b8co+8 b8jc+12 b8co+8",
     "b8jc+12 b8co+8 b8jc+12 b8co+8 b8jc+12 b8co+8 b8jc+12 bnwo+8 b8jc+12 b8co+8 b8jc+12 b8co+8",
     "b8jc+12 b8co+8 b8jc+12 b8co+8 b8jc+12 b8co+8 bo3c+12 b8co+8 b8jc+12 b8co+8 b8jc+12 cyy0+8",
     "9i80+12 de80+8 92o0+12 de80+8 92o0+12 de80+8 9i80+12 cyo0+8 9i80+12 cyo0+8 9i80+12 de80+8",
     "92o0+12 de80+8 92o0+12 de80+8 92o0+12 de80+8 9i80+12 cyo0+8 9i80+12 cyo0+8 9i80+12 de80+8",
     "92o0+12 de80+8 92o0+12 de80+8 9i80+12 cyo0+8 9i80+12 cyo0+8 9i80+12 cyo0+8 9i80+12 zv40+8"],
    some ⟨7200, 10800, ⟨3, 5, 0, 10800⟩, ⟨10, 5, 0, 14400⟩⟩⟩,
  ⟨["Asia/Gaza"], 7200,
    ["2tuhc+12 61oo+8 bo3c+12 87go+8 331vc+12 2lc0+8 2a3k0+12 6ww0+8 e9c0+12 8n0o+8 fznc+12",
     "6wso+8 dkzc+12 9bgo+8 cyrc+12 92ko+8 eozc+12 7rwo+8 cj7c+12 9i4o+8 cyrc+12 9xoo+8 cyrc+12",
     "9xoo+8 cubc+12 9mko+8 cubc+12 970o+8 d9vc+12 9mko+8 d9vc+12 adc0+8 c3k0+12 adc0+8 c3k0+12",
     "adc0+8 cyo0+12 b8co+8 bo3c+12 b8co+8 b8jc+12 b8co+8 b8jc+12 b8co+8 b8jc+12 b8co+8 b8jc+12",
     "adc0+8 c3k0+12 ambc+8 b1oo+12 aqko+8 bsjc+12 a6rc+8 c5oo+12 9i4o+8 cyrc+12 9xs0+8 clc2+12",
     "8gcm+8 edve+12 7j0m+8 exvc+12 asw0+8 bo00+12 b8co+8 b8jc+12 cyko+8 9kjc+12 cwg0+8 9kjc+12",
     "de4o+8 92rc+12 de4o+8 92rc+12 de4o+8 9g00+12 d0so+8 9ibc+12 cyo0+8 9i80+12 dc00+8 9740+12",
     "dc3c+8 b8jc+12 b8co+8 aszc+12 bnwo+8 adfc+12 c3go+8 9ibc+12 cyko+8 9ibc+12 de4o+8 92rc+12",
     "de4o+8 92rc+12 de4o+8 9ibc+12 cyko+8 9ibc+12 cyko+8 9ibc+12 de4o+8 92rc+12 de4o+8 92rc+12",
     "de4o+8 92rc+12 de4o+8 9ibc+12 cj0o+8 9xvc+12 c3go+8 adfc+12 b8co+8 b8jc+12 asso+8 bo3c+12",
     "9xoo+8 30zc+12 fgo+8 9ibc+12 92ko+8 2lfc+12 1ako+8 9ibc+12 8n0o+8 2lfc+12 1q4o+8 9ibc+12",
     "7rwo+8 30zc+12 25oo+8 9ibc+12 7cco+8 2lfc+12 3gco+8 92rc+12 6wso+8 2lfc+12 3vwo+8 92rc+12",
     "61oo+8 30zc+12 4bgo+8 9ibc+12 56ko+8 2lfc+12 56ko+8 9ibc+12 4bgo+8 30zc+12 5m4o+8 9ibc+12",
     "3vwo+8 2lfc+12 6wso+8 92rc+12 3gco+8 2lfc+12 7cco+8 92rc+12 2l8o+8 30zc+12 7rwo+8 9ibc+12",
     "1q4o+8 2lfc+12 8n0o+8 9ibc+12 v0o+8 30zc+12 92ko+8 9ibc+12 fgo+8 30zc+12 9i4o+8 c3nc+12",
     "asso+8 b8jc+12 b8co+8 adfc+12 c3go+8 9xvc+12 cj0o+8 9ibc+12 cyko+8 9ibc+12 de4o+8 92rc+12",
     "de4o+8 92rc+12 de4o+8 92rc+12 de4o+8 9ibc+12 cyko+8 9ibc+12 cyko+8 9ibc+12 de4o+8 92rc+12",
     "de4o+8 92rc+12 cyko+8 9xvc+12 c3go+8 adfc+12 bnwo+8 aszc+12 asso+8 bo3c+12 ad8o+8 2lfc+12",
     "fgo+8 92rc+12 9xoo+8 2lfc+12 v0o+8 92rc+12 92ko+8 30zc+12 1ako+8 9ibc+12 87go+8 2lfc+12",
     "25oo+8 9ibc+12 7cco+8 30zc+12 2l8o+8 9ibc+12 6wso+8 30zc+12 3gco+8 92rc+12 6h8o+8 2lfc+12",
     "4bgo+8 92rc+12 5m4o+8 30zc+12 4r0o+8 9ibc+12 4r0o+8 2lfc+12 5m4o+8 9ibc+12 4bgo+8 2lfc+12",
     "61oo+8 9ibc+12 3gco+8 30zc+12 6h8o+8 9ibc+12 30so+8 2lfc+12 7rwo+8 92rc+12 25oo+8 30zc+12",
     "87go+8 92rc+12 1q4o+8 30zc+12 8n0o+8 9ibc+12 v0o+8 2lfc+12 9i4o+8"],
    some ⟨7200, 10800, ⟨3, 4, 4, 180000⟩, ⟨10, 4, 4, 180000⟩⟩⟩,
  ⟨["Asia/Hebron"], 7200,
    ["2tuhc+12 61oo+8 bo3c+12 87go+8 331vc+12 2lc0+8 2a3k0+12 6ww0+8 e9c0+12 8n0o+8 fznc+12",
     "6wso+8 dkzc+12 9bgo+8 cyrc+12 92ko+8 eozc+12 7rwo+8 cj7c+12 9i4o+8 cyrc+12 9xoo+8 cyrc+12",
     "9xoo+8 cubc+12 9mko+8 cubc+12 970o+8 d9vc+12 9mko+8 d9vc+12 adc0+8 c3k0+12 adc0+8 c3k0+12",
     "adc0+8 cyo0+12 b8co+8 bo3c+12 b8co+8 b8jc+12 b8co+8 b8jc+12 b8co+8 b8jc+12 b8co+8 b8jc+12",
     "adc0+8 c3k0+12 ambc+8 b1oo+12 aqko+8 bsjc+12 a6rc+8 c5oo+12 9oso+8 cs3c+12 9xs0+8 cj40+12",
     "8iko+8 edve+12 7j0m+8 1sjc+12 1wso+8 b8jc+12 asw0+8 bo00+12 b8co+8 b8jc+12 cyko+8 9kjc+12",
     "cwg0+8 9kjc+12 de4o+8 92rc+12 de4o+8 92rc+12 de4o+8 9g00+12 d0so+8 9ibc+12 cyo0+8 9i80+12",
     "dc00+8 9740+12 dc3c+8 b8jc+12 b8co+8 aszc+12 bnwo+8 adfc+12 c3go+8 9ibc+12 cyko+8 9ibc+12",
     "de4o+8 92rc+12 de4o+8 92rc+12 de4o+8 9ibc+12 cyko+8 9ibc+12 cyko+8 9ibc+12 de4o+8 92rc+12",
     "de4o+8 92rc+12 de4o+8 92rc+12 de4o+8 9ibc+12 cj0o+8 9xvc+12 c3go+8 adfc+12 b8co+8 b8jc+12",
     "asso+8 bo3c+12 9xoo+8 30zc+12 fgo+8 9ibc+12 92ko+8 2lfc+12 1ako+8 9ibc+12 8n0o+8 2lfc+12",
     "1q4o+8 9ibc+12 7rwo+8 30zc+12 25oo+8 9ibc+12 7cco+8 2lfc+12 3gco+8 92rc+12 6wso+8 2lfc+12",
     "3vwo+8 92rc+12 61oo+8 30zc+12 4bgo+8 9ibc+12 56ko+8 2lfc+12 56ko+8 9ibc+12 4bgo+8 30zc+12",
     "5m4o+8 9ibc+12 3vwo+8 2lfc+12 6wso+8 92rc+12 3gco+8 2lfc+12 7cco+8 92rc+12 2l8o+8 30zc+12",
     "7rwo+8 9ibc+12 1q4o+8 2lfc+12 8n0o+8 9ibc+12 v0o+8 30zc+12 92ko+8 9ibc+12 fgo+8 30zc+12",
     "9i4o+8 c3nc+12 asso+8 b8jc+12 b8co+8 adfc+12 c3go+8 9xvc+12 cj0o+8 9ibc+12 cyko+8 9ibc+12",
     "de4o+8 92rc+12 de4o+8 92rc+12 de4o+8 92rc+12 de4o+8 9ibc+12 cyko+8 9ibc+12 cyko+8 9ibc+12",
     "de4o+8 92rc+12 de4o+8 92rc+12 cyko+8 9xvc+12 c3go+8 adfc+12 bnwo+8 aszc+12 asso+8 bo3c+12",
     "ad8o+8 2lfc+12 fgo+8 92rc+12 9xoo+8 2lfc+12 v0o+8 92rc+12 92ko+8 30zc+12 1ako+8 9ibc+12",
     "87go+8 2lfc+12 25oo+8 9ibc+12 7cco+8 30zc+12 2l8o+8 9ibc+12 6wso+8 30zc+12 3gco+8 92rc+12",
     "6h8o+8 2lfc+12 4bgo+8 92rc+12 5m4o+8 30zc+12 4r0o+8 9ibc+12 4r0o+8 2lfc+12 5m4o+8 9ibc+12",
     "4bgo+8 2lfc+12 61oo+8 9ibc+12 3gco+8 30zc+12 6h8o+8 9ibc+12 30so+8 2lfc+12 7rwo+8 92rc+12",
     "25oo+8 30zc+12 87go+8 92rc+12 1q4o+8 30zc+12 8n0o+8 9ibc+12 v0o+8 2lfc+12 9i4o+8"],
    some ⟨7200, 10800, ⟨3, 4, 4, 180000⟩, ⟨10, 4, 4, 180000⟩⟩⟩,
  ⟨["Asia/Ho_Chi_Minh"], 28800,
    ["3evpc+28"], none⟩,
  ⟨["Asia/Hong_Kong", "Asia/Macau"], 28800,
    ["6s10+36 b8co+32 b8jc+36 b8co+32 b8jc+36 bnwo+32 b8jc+36 b8co+32 4bnc+36 i58o+32 b8jc+36",
     "b8co+32 b8jc+36 b8co+32 1lwjc+36 9xoo+32"], none⟩,
  ⟨["Asia/Hovd"], 21600,
    ["50h80+28 3a9oo+32 bako+28 barc+32 b8co+28 b8jc+32 b8co+28 b8jc+32 b8co+28 b8jc+32 b8co+28",
     "b8jc+32 b8co+28 b8jc+32 b8co+28 b8jc+32 bnwo+28 b8jc+32 b8co+28 b8jc+32 b8co+28 b8jc+32",
     "b8co+28 b8jc+32 b8co+28 b8jc+32 b8co+28 bo3c+32 b8co+28 b8jc+32 b8co+28 b8jc+32 b8co+28",
     "1ma20+32 9i4o+28 b8jc+32 b8co+28 b8jc+32 b8co+28 b8jc+32 b8co+28 b8jc+32 b8co+28 b8jc+32",
     "bnwo+28 5bf7c+32 b860+28 b8q0+32 b860+28"], none⟩,
  ⟨["Asia/Irkutsk"], 28800,
    ["71olc+36 bako+32 b8jc+36 bako+32 b8jc+36 bako+32 barc+36 b8mo+32 b8g0+36 b8g0+32 b8g0+36",
     "b8g0+32 b8g0+36 b8g0+32 b8g0+36 b8g0+32 b8g0+36 b8g0+32 b8g0+36 bo00+32 mgzc+28 6ww0+32",
     "4bgo+36 b8g0+32 b8g0+36 b8g0+32 b8g0+36 b8g0+32 b8g0+36 b8g0+32 bo00+36 cyo0+32 9i80+36",
     "cyo0+32 9i80+36 cyo0+32 9i80+36 de80+32 92o0+36 de80+32 92o0+36 de80+32 9i80+36 cyo0+32",
     "9i80+36 cyo0+32 9i80+36 de80+32 92o0+36 de80+32 92o0+36 de80+32 92o0+36 de80+32 9i80+36",
     "cyo0+32 9i80+36 cyo0+32 9i80+36 de80+32 92o0+36 28sso+32"], none⟩,
  ⟨["Asia/Istanbul", "Europe/Istanbul"], 7200,
    ["257wo+12 9i80+8 92rc+12 de4o+8 8kzc+12 dvwo+8 8n7c+12 dtoo+8 9ibc+12 c3go+8 adfc+12",
     "3c4co+16 3vwo+12 og3c+8 ahs0+12 9xs0+8 bao0+12 b8g0+8 b8g0+12 b8g0+8 b8g0+12 b8g0+8 b8g0+12",
     "b8g0+8 b8g0+12 bo00+8 b8g0+12 b8g0+8 b8g0+12 b8g0+8 b8g0+12 b8g0+8 asw0+12 bo00+8 b8g0+12",
     "b8g0+8 bo00+12 cyo0+8 9i80+12 cyo0+8 9i80+12 cyo0+8 9i80+12 de80+8 92o0+12 de80+8 92o0+12",
     "de80+8 9i80+12 cyo0+8 9i80+12 cyo0+8 9i80+12 de80+8 92o0+12 de80+8 92o0+12 de80+8 92uo+12",
     "de80+8 9i80+12 cyo0+8 9i80+12 cyo0+8 9i80+12 de80+8 94w0+12 dc00+8 92o0+12 de80+8 9i80+12",
     "cyo0+8 9kg0+12 cwg0+8 9i80+12 dts0+8 8n40+12"], none⟩,
  ⟨["Asia/Jayapura", "Asia/Tokyo", "Etc/GMT-9", "Pacific/Palau"], 32400, [], none⟩,
  ⟨["Asia/Jerusalem", "Asia/Tel_Aviv"], 7200,
    ["2tuhc+12 61oo+8 bo3c+12 87go+8 331vc+12 2lc0+8 2a3k0+12 6ww0+8 e9c0+12 8n0o+8 fznc+12",
     "6wso+8 dkzc+12 9bgo+8 cyrc+12 92ko+8 eozc+12 7rwo+8 cj7c+12 9i4o+8 cyrc+12 9xoo+8 cyrc+12",
     "9xoo+8 cubc+12 9mko+8 cubc+12 970o+8 d9vc+12 9mko+8 bz7c+12 bf0o+8 bhfc+12 ax8o+8 bjnc+12",
     "ahoo+8 cui0+12 9i4o+8 dtvc+12 aspc+8 bf7c+12 ad8o+8 bhfc+12 buko+8 ambc+12 bnwo+8 bjnc+12",
     "ad8o+8 bsmo+12 bsco+8 aojc+12 bcso+8 b43c+12 ahoo+8 bz7c+12 bsco+8 aojc+12 bcso+8 b43c+12",
     "ahoo+8 cerc+12 bcso+8 b43c+12 ax8o+8 bjnc+12"],
    some ⟨7200, 10800, ⟨3, 4, 4, 93600⟩, ⟨10, 5, 0, 7200⟩⟩⟩,
  ⟨["Asia/Kabul"], 16200, [], none⟩,
  ⟨["Asia/Kamchatka"], 43200,
    ["71o80+52 bako+48 b8jc+52 bako+48 b8jc+52 bako+48 barc+52 b8mo+48 b8g0+52 b8g0+48 b8g0+52",
     "b8g0+48 b8g0+52 b8g0+48 b8g0+52 b8g0+48 b8g0+52 b8g0+48 b8g0+52 bo00+48 mgzc+44 6ww0+48",
     "4bgo+52 b8g0+48 b8g0+52 b8g0+48 b8g0+52 b8g0+48 b8g0+52 b8g0+48 bo00+52 cyo0+48 9i80+52",
     "cyo0+48 9i80+52 cyo0+48 9i80+52 de80+48 92o0+52 de80+48 92o0+52 de80+48 9i80+52 cyo0+48",
     "9i80+52 cyo0+48 9i80+52 de80+48 92o0+52 de80+48 92o0+52 de80+48 92o0+52 de80+48 9i80+52",
     "cyo0+48 9i80+52 cyo0+48 mwjc+44 92o0+48"], none⟩,
  ⟨["Asia/Karachi"], 18000,
    ["k7inc+24 b8co+20 3jgzc+24 9fwo+20 a6rc+24 ccco+20"], none⟩,
  ⟨["Asia/Kashgar", "Asia/Urumqi", "Etc/GMT-6"], 21600, [], none⟩,
  ⟨["Asia/Kathmandu"], 19800,
    ["a0ulo+23"], none⟩,
  ⟨["Asia/Khandyga"], 32400,
    ["71oi0+40 bako+36 b8jc+40 bako+36 b8jc+40 bako+36 barc+40 b8mo+36 b8g0+40 b8g0+36 b8g0+40",
     "b8g0+36 b8g0+40 b8g0+36 b8g0+40 b8g0+36 b8g0+40 b8g0+36 b8g0+40 bo00+36 mgzc+32 6ww0+36",
     "4bgo+40 b8g0+36 b8g0+40 b8g0+36 b8g0+40 b8g0+36 b8g0+40 b8g0+36 bo00+40 cyo0+36 9i80+40",
     "cyo0+36 9i80+40 cyo0+36 9i80+40 de80+36 92o0+40 de80+36 92o0+40 de80+36 9i80+40 cyo0+36",
     "9i80+40 cyo0+36 44pc+40 5dfc+44 de80+40 92o0+44 de80+40 92o0+44 de80+40 92o0+44 de80+40",
     "9i80+44 cyo0+40 9i80+44 cyo0+40 9i80+44 de80+40 92o0+44 ahi0+40 1ybe0+36"], none⟩,
  ⟨["Asia/Kolkata"], 19800, [], none⟩,
  ⟨["Asia/Krasnoyarsk"], 25200,
    ["71ooo+32 bako+28 b8jc+32 bako+28 b8jc+32 bako+28 barc+32 b8mo+28 b8g0+32 b8g0+28 b8g0+32",
     "b8g0+28 b8g0+32 b8g0+28 b8g0+32 b8g0+28 b8g0+32 b8g0+28 b8g0+32 bo00+28 mgzc+24 6ww0+28",
     "4bgo+32 b8g0+28 b8g0+32 b8g0+28 b8g0+32 b8g0+28 b8g0+32 b8g0+28 bo00+32 cyo0+28 9i80+32",
     "cyo0+28 9i80+32 cyo0+28 9i80+32 de80+28 92o0+32 de80+28 92o0+32 de80+28 9i80+32 cyo0+28",
     "9i80+32 cyo0+28 9i80+32 de80+28 92o0+32 de80+28 92o0+32 de80+28 92o0+32 de80+28 9i80+32",
     "cyo0+28 9i80+32 cyo0+28 9i80+32 de80+28 92o0+32 28sso+28"], none⟩,
  ⟨["Asia/Kuala_Lumpur", "Asia/Singapore"], 27000,
    ["7inpc+32"], none⟩,
  ⟨["Asia/Magadan"], 39600,
    ["71obc+48 bako+44 b8jc+48 bako+44 b8jc+48 bako+44 barc+48 b8mo+44 b8g0+48 b8g0+44 b8g0+48",
     "b8g0+44 b8g0+48 b8g0+44 b8g0+48 b8g0+44 b8g0+48 b8g0+44 b8g0+48 bo00+44 mgzc+40 6ww0+44",
     "4bgo+48 b8g0+44 b8g0+48 b8g0+44 b8g0+48 b8g0+44 b8g0+48 b8g0+44 bo00+48 cyo0+44 9i80+48",
     "cyo0+44 9i80+48 cyo0+44 9i80+48 de80+44 92o0+48 de80+44 92o0+48 de80+44 9i80+48 cyo0+44",
     "9i80+48 cyo0+44 9i80+48 de80+44 92o0+48 de80+44 92o0+48 de80+44 92o0+48 de80+44 9i80+48",
     "cyo0+44 9i80+48 cyo0+44 9i80+48 de80+44 92o0+48 28sso+40 xpio+44"], none⟩,
  ⟨["Asia/Manila"], 28800,
    ["4j91c+36 azgo+32 7xfnc+36 498o+32"], none⟩,
  ⟨["Asia/Nicosia", "Europe/Nicosia"], 7200,
    ["3b4pc+12 b8co+8 dc3c+12 970o+8 aqrc+12 asso+8 bo3c+12 bako+8 b6bc+12 b8co+8 bo3c+12 asso+8",
     "b8jc+12 b8co+8 b8jc+12 b8co+8 b8jc+12 b8co+8 b8jc+12 bnwo+8 b8jc+12 b8co+8 b8jc+12 b8co+8",
     "b8jc+12 b8co+8 b8jc+12 b8co+8 b8jc+12 b8co+8 b8jc+12 bnwo+8 b8jc+12 b8co+8 b8jc+12 b8co+8",
     "b8jc+12 b8co+8 b8jc+12 b8co+8 b8jc+12 b8co+8 bo3c+12 b8co+8 b8jc+12 b8co+8 b8jc+12 cyy0+8"],
    some ⟨7200, 10800, ⟨3, 5, 0, 10800⟩, ⟨10, 5, 0, 14400⟩⟩⟩,
  ⟨["Asia/Novokuznetsk"], 25200,
    ["71ooo+32 bako+28 b8jc+32 bako+28 b8jc+32 bako+28 barc+32 b8mo+28 b8g0+32 b8g0+28 b8g0+32",
     "b8g0+28 b8g0+32 b8g0+28 b8g0+32 b8g0+28 b8g0+32 b8g0+28 b8g0+32 bo00+28 mgzc+24 6ww0+28",
     "4bgo+32 b8g0+28 b8g0+32 b8g0+28 b8g0+32 b8g0+28 b8g0+32 b8g0+28 bo00+32 cyo0+28 9i80+32",
     "cyo0+28 9i80+32 cyo0+28 9i80+32 de80+28 92o0+32 de80+28 92o0+32 de80+28 9i80+32 cyo0+28",
     "9i80+32 cyo0+28 9i80+32 de80+28 92o0+32 de80+28 92o0+32 de80+28 92o0+32 de80+28 9i80+32",
     "cyo0+28 9i80+32 cyo0+28 mwjc+24 92o0+28"], none⟩,
  ⟨["Asia/Novosibirsk"], 25200,
    ["71ooo+32 bako+28 b8jc+32 bako+28 b8jc+32 bako+28 barc+32 b8mo+28 b8g0+32 b8g0+28 b8g0+32",
     "b8g0+28 b8g0+32 b8g0+28 b8g0+32 b8g0+28 b8g0+32 b8g0+28 b8g0+32 bo00+28 mgzc+24 6ww0+28",
     "4bgo+32 b8g0+28 b8g0+32 3g60+28 7sdc+24 b8g0+28 b8g0+24 b8g0+28 b8g0+24 bo00+28 cyo0+24",
     "9i80+28 cyo0+24 9i80+28 cyo0+24 9i80+28 de80+24 92o0+28 de80+24 92o0+28 de80+24 9i80+28",
     "cyo0+24 9i80+28 cyo0+24 9i80+28 de80+24 92o0+28 de80+24 92o0+28 de80+24 92o0+28 de80+24",
     "9i80+28 cyo0+24 9i80+28 cyo0+24 9i80+28 de80+24 92o0+28 28sso+24 13bnc+28"], none⟩,
  ⟨["Asia/Omsk"], 21600,
    ["71os0+28 bako+24 b8jc+28 bako+24 b8jc+28 bako+24 barc+28 b8mo+24 b8g0+28 b8g0+24 b8g0+28",
     "b8g0+24 b8g0+28 b8g0+24 b8g0+28 b8g0+24 b8g0+28 b8g0+24 b8g0+28 bo00+24 mgzc+20 6ww0+24",
     "4bgo+28 b8g0+24 b8g0+28 b8g0+24 b8g0+28 b8g0+24 b8g0+28 b8g0+24 bo00+28 cyo0+24 9i80+28",
     "cyo0+24 9i80+28 cyo0+24 9i80+28 de80+24 92o0+28 de80+24 92o0+28 de80+24 9i80+28 cyo0+24",
     "9i80+28 cyo0+24 9i80+28 de80+24 92o0+28 de80+24 92o0+28 de80+24 92o0+28 de80+24 9i80+28",
     "cyo0+24 9i80+28 cyo0+24 9i80+28 de80+24 92o0+28 28sso+24"], none⟩,
  ⟨["Asia/Oral"], 18000,
    ["71ovc+24 xtoo+20 b8jc+24 bako+20 barc+24 b8mo+20 b8g0+24 b8g0+20 b8g0+24 b8g0+20 b8g0+24",
     "b8g0+20 b8g0+24 b8g0+20 mgzc+16 b8g0+20 bo00+16 b8g0+20 b8g0+16 6ww0+20 fk00+16 b8g0+20",
     "b8g0+16 b8g0+20 b8g0+16 b8g0+20 b8g0+16 bo00+20 cyo0+16 9i80+20 cyo0+16 9i80+20 cyo0+16",
     "9i80+20 de80+16 92o0+20 de80+16 92o0+20 de80+16 9i80+20 cyo0+16 9i80+20 cyo0+16 9i80+20"],
    none⟩,
  ⟨["Asia/Pontianak"], 28800,
    ["b9wlc+28"], none⟩,
  ⟨["Asia/Pyongyang"], 32400,
    ["skma0+34 1pcw0+36"], none⟩,
  ⟨["Asia/Qostanay"], 18000,
    ["71ovc+24 xtoo+20 b8jc+24 bako+20 barc+24 b8mo+20 b8g0+24 b8g0+20 b8g0+24 b8g0+20 b8g0+24",
     "b8g0+20 b8g0+24 b8g0+20 b8g0+24 b8g0+20 b8g0+24 bo00+20 mgzc+16 6ww0+20 4bgo+24 b8g0+20",
     "b8g0+24 b8g0+20 b8g0+24 b8g0+20 b8g0+24 b8g0+20 bo00+24 cyo0+20 9i80+24 cyo0+20 9i80+24",
     "cyo0+20 9i80+24 de80+20 92o0+24 de80+20 92o0+24 de80+20 9i80+24 cyo0+20 9i80+24 cyo0+20",
     "9i80+24 ch920+20"], none⟩,
  ⟨["Asia/Qyzylorda"], 18000,
    ["71ovc+24 xtoo+20 b8jc+24 bako+20 barc+24 b8mo+20 b8g0+24 b8g0+20 b8g0+24 b8g0+20 b8g0+24",
     "b8g0+20 b8g0+24 b8g0+20 b8g0+24 b8g0+20 b8g0+24 bo00+20 tds0+24 fk00+20 b8g0+24 b8g0+20",
     "b8g0+24 b8g0+20 b8g0+24 b8g0+20 bo00+24 cyo0+20 9i80+24 cyo0+20 9i80+24 cyo0+20 9i80+24",
     "de80+20 92o0+24 de80+20 92o0+24 de80+20 9i80+24 cyo0+20 9i80+24 cyo0+20 9i80+24 985i0+20"],
    none⟩,
  ⟨["Asia/Sakhalin"], 39600,
    ["71obc+48 bako+44 b8jc+48 bako+44 b8jc+48 bako+44 barc+48 b8mo+44 b8g0+48 b8g0+44 b8g0+48",
     "b8g0+44 b8g0+48 b8g0+44 b8g0+48 b8g0+44 b8g0+48 b8g0+44 b8g0+48 bo00+44 mgzc+40 6ww0+44",
     "4bgo+48 b8g0+44 b8g0+48 b8g0+44 b8g0+48 b8g0+44 b8g0+48 b8g0+44 bo00+48 cyo0+44 mgzc+40",
     "9i80+44 cyo0+40 9i80+44 de80+40 92o0+44 de80+40 92o0+44 de80+40 9i80+44 cyo0+40 9i80+44",
     "cyo0+40 9i80+44 de80+40 92o0+44 de80+40 92o0+44 de80+40 92o0+44 de80+40 9i80+44 cyo0+40",
     "9i80+44 cyo0+40 9i80+44 de80+40 92o0+44 28sso+40 vz7c+44"], none⟩,
  ⟨["Asia/Samarkand"], 18000,
    ["71ovc+24 xtoo+20 b8jc+24 bako+20 barc+24 b8mo+20 b8g0+24 b8g0+20 b8g0+24 b8g0+20 b8g0+24",
     "b8g0+20 b8g0+24 b8g0+20 b8g0+24 b8g0+20 b8g0+24 bo00+20 b8g0+24 b8g0+20"], none⟩,
  ⟨["Asia/Seoul"], 32400,
    ["avc8o+40 9i80+36 cyo0+40 9i80+36"], none⟩,
  ⟨["Asia/Srednekolymsk"], 39600,
    ["71obc+48 bako+44 b8jc+48 bako+44 b8jc+48 bako+44 barc+48 b8mo+44 b8g0+48 b8g0+44 b8g0+48",
     "b8g0+44 b8g0+48 b8g0+44 b8g0+48 b8g0+44 b8g0+48 b8g0+44 b8g0+48 bo00+44 mgzc+40 6ww0+44",
     "4bgo+48 b8g0+44 b8g0+48 b8g0+44 b8g0+48 b8g0+44 b8g0+48 b8g0+44 bo00+48 cyo0+44 9i80+48",
     "cyo0+44 9i80+48 cyo0+44 9i80+48 de80+44 92o0+48 de80+44 92o0+48 de80+44 9i80+48 cyo0+44",
     "9i80+48 cyo0+44 9i80+48 de80+44 92o0+48 de80+44 92o0+48 de80+44 92o0+48 de80+44 9i80+48",
     "cyo0+44 9i80+48 cyo0+44 9i80+48 de80+44 92o0+48 28sso+44"], none⟩,
  ⟨["Asia/Taipei"], 28800,
    ["2nudc+36 bako+32 b8jc+36 bako+32 2cibc+36 5oco+32"], none⟩,
  ⟨["Asia/Tashkent"], 21600,
    ["71os0+28 bako+24 b8jc+28 bako+24 b8jc+28 bako+24 barc+28 b8mo+24 b8g0+28 b8g0+24 b8g0+28",
     "b8g0+24 b8g0+28 b8g0+24 b8g0+28 b8g0+24 b8g0+28 b8g0+24 b8g0+28 bo00+24 mgzc+20"], none⟩,
  ⟨["Asia/Tbilisi"], 14400,
    ["71oyo+20 bako+16 b8jc+20 bako+16 b8jc+20 bako+16 barc+20 b8mo+16 b8g0+20 b8g0+16 b8g0+20",
     "b8g0+16 b8g0+20 b8g0+16 b8g0+20 b8g0+16 b8g0+20 b8g0+16 b8g0+20 bo00+16 mgzc+12 b89c+16",
     "b8co+12 b8jc+16 b8co+12 b8jc+16 mgso+20 b8co+16 bo3c+20 zfgo+16 9ibc+20 cyko+16 9ibc+20",
     "de4o+16 92rc+20 de4o+16 92rc+20 de4o+16 9ibc+20 cyko+16 9ibc+20 cyko+16 9ibc+20 5m4o+16",
     "7sdc+12 92o0+16"], none⟩,
  ⟨["Asia/Tehran"], 12600,
    ["4iw10+18 d5c0+16 9kho+20 87k0+16 61s0+14 c5to+18 73go+14 bczc+18 bh8o+14 6n4zc+18 8rgo+14",
     "b8jc+18 bcso+14 b6bc+18 bcso+14 b6bc+18 bcso+14 b6bc+18 bcso+14 b6bc+18 bcso+14 b8jc+18",
     "bcso+14 b6bc+18 bcso+14 b6bc+18 bcso+14 b6bc+18 bcso+14 b8jc+18 bcso+14 b6bc+18 bcso+14",
     "b6bc+18 bcso+14 b6bc+18 bcso+14 b8jc+18 bcso+14 1k8jc+18 bcso+14 b8jc+18 bcso+14 b6bc+18",
     "bcso+14 b6bc+18 bcso+14 b6bc+18 bcso+14 b8jc+18 bcso+14 b6bc+18 bcso+14 b6bc+18 bcso+14",
     "b6bc+18 bcso+14 b8jc+18 bcso+14 b6bc+18 bcso+14 b6bc+18 bcso+14 b6bc+18 bcso+14 b8jc+18",
     "bcso+14 b6bc+18 bcso+14"], none⟩,
  ⟨["Asia/Thimphu"], 19800,
    ["b48do+24"], none⟩,
  ⟨["Asia/Tomsk"], 25200,
    ["71ooo+32 bako+28 b8jc+32 bako+28 b8jc+32 bako+28 barc+32 b8mo+28 b8g0+32 b8g0+28 b8g0+32",
     "b8g0+28 b8g0+32 b8g0+28 b8g0+32 b8g0+28 b8g0+32 b8g0+28 b8g0+32 bo00+28 mgzc+24 6ww0+28",
     "4bgo+32 b8g0+28 b8g0+32 b8g0+28 b8g0+32 b8g0+28 b8g0+32 b8g0+28 bo00+32 cyo0+28 9i80+32",
     "cyo0+28 9i80+32 cyo0+28 9i80+32 de80+28 92o0+32 de80+28 92o0+32 de80+28 9i80+32 1ww0+28",
     "b1vc+24 9i80+28 cyo0+24 9i80+28 de80+24 92o0+28 de80+24 92o0+28 de80+24 92o0+28 de80+24",
     "9i80+28 cyo0+24 9i80+28 cyo0+24 9i80+28 de80+24 92o0+28 28sso+24 zv7c+28"], none⟩,
  ⟨["Asia/Ust-Nera"], 32400,
    ["71oi0+48 bae0+44 b8jc+48 bako+44 b8jc+48 bako+44 barc+48 b8mo+44 b8g0+48 b8g0+44 b8g0+48",
     "b8g0+44 b8g0+48 b8g0+44 b8g0+48 b8g0+44 b8g0+48 b8g0+44 b8g0+48 bo00+44 mgzc+40 6ww0+44",
     "4bgo+48 b8g0+44 b8g0+48 b8g0+44 b8g0+48 b8g0+44 b8g0+48 b8g0+44 bo00+48 cyo0+44 9i80+48",
     "cyo0+44 9i80+48 cyo0+44 9i80+48 de80+44 92o0+48 de80+44 92o0+48 de80+44 9i80+48 cyo0+44",
     "9i80+48 cyo0+44 9i80+48 de80+44 92o0+48 de80+44 92o0+48 de80+44 92o0+48 de80+44 9i80+48",
     "cyo0+44 9i80+48 cyo0+44 9i80+48 de80+44 92o0+48 ahi0+44 1ybe0+40"], none⟩,
  ⟨["Asia/Vladivostok"], 36000,
    ["71oeo+44 bako+40 b8jc+44 bako+40 b8jc+44 bako+40 barc+44 b8mo+40 b8g0+44 b8g0+40 b8g0+44",
     "b8g0+40 b8g0+44 b8g0+40 b8g0+44 b8g0+40 b8g0+44 b8g0+40 b8g0+44 bo00+40 mgzc+36 6ww0+40",
     "4bgo+44 b8g0+40 b8g0+44 b8g0+40 b8g0+44 b8g0+40 b8g0+44 b8g0+40 bo00+44 cyo0+40 9i80+44",
     "cyo0+40 9i80+44 cyo0+40 9i80+44 de80+40 92o0+44 de80+40 92o0+44 de80+40 9i80+44 cyo0+40",
     "9i80+44 cyo0+40 9i80+44 de80+40 92o0+44 de80+40 92o0+44 de80+40 92o0+44 de80+40 9i80+44",
     "cyo0+40 9i80+44 cyo0+40 9i80+44 de80+40 92o0+44 28sso+40"], none⟩,
  ⟨["Asia/Yakutsk"], 32400,
    ["71oi0+40 bako+36 b8jc+40 bako+36 b8jc+40 bako+36 barc+40 b8mo+36 b8g0+40 b8g0+36 b8g0+40",
     "b8g0+36 b8g0+40 b8g0+36 b8g0+40 b8g0+36 b8g0+40 b8g0+36 b8g0+40 bo00+36 mgzc+32 6ww0+36",
     "4bgo+40 b8g0+36 b8g0+40 b8g0+36 b8g0+40 b8g0+36 b8g0+40 b8g0+36 bo00+40 cyo0+36 9i80+40",
     "cyo0+36 9i80+40 cyo0+36 9i80+40 de80+36 92o0+40 de80+36 92o0+40 de80+36 9i80+40 cyo0+36",
     "9i80+40 cyo0+36 9i80+40 de80+36 92o0+40 de80+36 92o0+40 de80+36 92o0+40 de80+36 9i80+40",
     "cyo0+36 9i80+40 cyo0+36 9i80+40 de80+36 92o0+40 28sso+36"], none⟩,
  ⟨["Asia/Yangon", "Indian/Cocos"], 23400, [], none⟩,
  ⟨["Asia/Yekaterinburg"], 18000,
    ["71ovc+24 bako+20 b8jc+24 bako+20 b8jc+24 bako+20 barc+24 b8mo+20 b8g0+24 b8g0+20 b8g0+24",
     "b8g0+20 b8g0+24 b8g0+20 b8g0+24 b8g0+20 b8g0+24 b8g0+20 b8g0+24 bo00+20 mgzc+16 6ww0+20",
     "4bgo+24 b8g0+20 b8g0+24 b8g0+20 b8g0+24 b8g0+20 b8g0+24 b8g0+20 bo00+24 cyo0+20 9i80+24",
     "cyo0+20 9i80+24 cyo0+20 9i80+24 de80+20 92o0+24 de80+20 92o0+24 de80+20 9i80+24 cyo0+20",
     "9i80+24 cyo0+20 9i80+24 de80+20 92o0+24 de80+20 92o0+24 de80+20 92o0+24 de80+20 9i80+24",
     "cyo0+20 9i80+24 cyo0+20 9i80+24 de80+20 92o0+24 28sso+20"], none⟩,
  ⟨["Asia/Yerevan"], 14400,
    ["71oyo+20 bako+16 b8jc+20 bako+16 b8jc+20 bako+16 barc+20 b8mo+16 b8g0+20 b8g0+16 b8g0+20",
     "b8g0+16 b8g0+20 b8g0+16 b8g0+20 b8g0+16 b8g0+20 b8g0+16 b8g0+20 bo00+16 mgzc+12 b8g0+16",
     "b8g0+12 b8g0+16 b8g0+12 b8g0+16 b8g0+12 b8g0+16 19d8o+20 cyo0+16 9i80+20 cyo0+16 9i80+20",
     "de80+16 92o0+20 de80+16 92o0+20 de80+16 9i80+20 cyo0+16 9i80+20 cyo0+16 9i80+20 de80+16",
     "92o0+20 de80+16 92o0+20 de80+16 92o0+20 de80+16 9i80+20 cyo0+16 9i80+20 cyo0+16 9i80+20",
     "de80+16 92o0+20 de80+16"], none⟩]

end Automation.Time.Zone
