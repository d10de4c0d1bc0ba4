import VirtualClock.Zone.Region

/-!
# Regions of Australia, Antarctica and the Pacific

The history of the offsets of the southern and oceanic regions.  Lord Howe moves
its clocks by half an hour, and the station Troll by two hours.
Changes hold a UTC second since the first midnight of year one and the offset from
then on.
-/

namespace VirtualClock.Atlas

def lordHowe : Region where
  name := "Australia/Lord_Howe"
  initialOffset := east 38180
  changes :=
    [⟨59771481820, east 36000⟩, ⟨62487813600, east 37800⟩, ⟨62508382200, east 41400⟩,
     ⟨62519869800, east 37800⟩, ⟨62540436600, east 41400⟩, ⟨62551319400, east 37800⟩,
     ⟨62571886200, east 41400⟩, ⟨62582769000, east 37800⟩, ⟨62603335800, east 41400⟩,
     ⟨62614218600, east 37800⟩, ⟨62634785400, east 39600⟩, ⟨62646879600, east 37800⟩,
     ⟨62665630200, east 39600⟩, ⟨62678329200, east 37800⟩, ⟨62697684600, east 39600⟩,
     ⟨62710383600, east 37800⟩, ⟨62729739000, east 39600⟩, ⟨62741833200, east 37800⟩,
     ⟨62761188600, east 39600⟩, ⟨62772073200, east 37800⟩, ⟨62792638200, east 39600⟩,
     ⟨62803522800, east 37800⟩, ⟨62824087800, east 39600⟩, ⟨62834972400, east 37800⟩,
     ⟨62855537400, east 39600⟩, ⟨62867026800, east 37800⟩, ⟨62887591800, east 39600⟩,
     ⟨62898476400, east 37800⟩, ⟨62919041400, east 39600⟩, ⟨62929926000, east 37800⟩,
     ⟨62950491000, east 39600⟩, ⟨62963794800, east 37800⟩, ⟨62981940600, east 39600⟩,
     ⟨62995244400, east 37800⟩, ⟨63013390200, east 39600⟩, ⟨63026694000, east 37800⟩,
     ⟨63044839800, east 39600⟩, ⟨63058143600, east 37800⟩, ⟨63076894200, east 39600⟩,
     ⟨63089593200, east 37800⟩, ⟨63102900600, east 39600⟩, ⟨63121042800, east 37800⟩,
     ⟨63139793400, east 39600⟩, ⟨63153097200, east 37800⟩, ⟨63171243000, east 39600⟩,
     ⟨63184546800, east 37800⟩, ⟨63202692600, east 39600⟩, ⟨63215996400, east 37800⟩,
     ⟨63234747000, east 39600⟩, ⟨63247446000, east 37800⟩, ⟨63266196600, east 39600⟩,
     ⟨63279500400, east 37800⟩, ⟨63297646200, east 39600⟩, ⟨63310345200, east 37800⟩,
     ⟨63329095800, east 39600⟩, ⟨63343004400, east 37800⟩]
  rule := ⟨"+1030", 37800, some ⟨"+11", 39600, ⟨10, 1, 0, 7200⟩, ⟨4, 1, 0, 7200⟩⟩⟩

def apia : Region where
  name := "Pacific/Apia"
  initialOffset := east 45184
  changes :=
    [⟨59690172416, west 41216⟩, ⟨60273718016, west 41400⟩, ⟨61504486200, west 39600⟩,
     ⟨63421095600, west 36000⟩, ⟨63437349600, west 39600⟩, ⟨63452469600, west 36000⟩,
     ⟨63460836000, east 50400⟩, ⟨63468799200, east 46800⟩, ⟨63484524000, east 50400⟩,
     ⟨63500853600, east 46800⟩, ⟨63515973600, east 50400⟩, ⟨63532303200, east 46800⟩,
     ⟨63547423200, east 50400⟩, ⟨63563752800, east 46800⟩, ⟨63578872800, east 50400⟩,
     ⟨63595202400, east 46800⟩, ⟨63610322400, east 50400⟩, ⟨63626652000, east 46800⟩,
     ⟨63641772000, east 50400⟩, ⟨63658101600, east 46800⟩, ⟨63673826400, east 50400⟩,
     ⟨63690156000, east 46800⟩, ⟨63705276000, east 50400⟩, ⟨63721605600, east 46800⟩,
     ⟨63736725600, east 50400⟩, ⟨63753055200, east 46800⟩]
  rule := ⟨"+13", 46800, none⟩

def honolulu : Region where
  name := "Pacific/Honolulu"
  initialOffset := west 37886
  changes :=
    [⟨59801495486, west 37800⟩, ⟨60978313800, west 34200⟩, ⟨60980160600, west 37800⟩,
     ⟨61255398600, west 34200⟩, ⟨61366201200, west 34200⟩, ⟨61370220600, west 37800⟩,
     ⟨61423446600, west 36000⟩]
  rule := ⟨"HST", -36000, none⟩

def kiritimati : Region where
  name := "Pacific/Kiritimati"
  initialOffset := west 37760
  changes :=
    [⟨59958181760, west 38400⟩, ⟨62443219200, west 36000⟩, ⟨62924464800, east 50400⟩]
  rule := ⟨"+14", 50400, none⟩

def troll : Region where
  name := "Antarctica/Troll"
  initialOffset := east 0
  changes :=
    [⟨63243763200, east 0⟩]
  rule := ⟨"+00", 0, some ⟨"+02", 7200, ⟨3, 5, 0, 3600⟩, ⟨10, 5, 0, 10800⟩⟩⟩

end VirtualClock.Atlas
