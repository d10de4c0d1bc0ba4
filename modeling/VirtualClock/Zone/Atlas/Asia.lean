import VirtualClock.Zone.Region

/-!
# Regions of Asia

The history of the offsets of the Asian regions.
Changes hold a UTC second since the first midnight of year one and the offset from
then on.
-/

namespace VirtualClock.Atlas

def tokyo : Region where
  name := "Asia/Tokyo"
  initialOffset := east 33539
  changes :=
    [⟨59547884400, east 32400⟩, ⟨61451794800, east 36000⟩, ⟨61463286000, east 32400⟩,
     ⟨61480825200, east 36000⟩, ⟨61494735600, east 32400⟩, ⟨61515298800, east 36000⟩,
     ⟨61526185200, east 32400⟩, ⟨61546748400, east 36000⟩, ⟨61557634800, east 32400⟩]
  rule := ⟨"JST", 32400, none⟩

def kolkata : Region where
  name := "Asia/Kolkata"
  initialOffset := east 21208
  changes :=
    [⟨58490359592, east 21200⟩, ⟨58979902000, east 19270⟩, ⟨60115891130, east 19800⟩,
     ⟨61244015400, east 23400⟩, ⟨61263538200, east 19800⟩, ⟨61272959400, east 23400⟩,
     ⟨61371451800, east 19800⟩]
  rule := ⟨"IST", 19800, none⟩

def kathmandu : Region where
  name := "Asia/Kathmandu"
  initialOffset := east 20476
  changes :=
    [⟨60557653124, east 19800⟩, ⟨62640498600, east 20700⟩]
  rule := ⟨"+0545", 20700, none⟩

def pyongyang : Region where
  name := "Asia/Pyongyang"
  initialOffset := east 30180
  changes :=
    [⟨60186814620, east 30600⟩, ⟨60305182200, east 32400⟩, ⟨61366950000, east 32400⟩,
     ⟨63575161200, east 30600⟩, ⟨63661042800, east 32400⟩]
  rule := ⟨"KST", 32400, none⟩

end VirtualClock.Atlas
