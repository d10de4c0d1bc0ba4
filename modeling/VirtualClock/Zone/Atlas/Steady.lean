import VirtualClock.Zone.Region

/-!
# Regions without a history

Universal time and two whole-hour offsets, which never change.
Changes hold a UTC second since the first midnight of year one and the offset from
then on.
-/

namespace VirtualClock.Atlas

def universal : Region where
  name := "UTC"
  initialOffset := east 0
  changes := []
  rule := ⟨"UTC", 0, none⟩

def behindTwelve : Region where
  name := "Etc/GMT+12"
  initialOffset := west 43200
  changes := []
  rule := ⟨"-12", -43200, none⟩

def aheadFourteen : Region where
  name := "Etc/GMT-14"
  initialOffset := east 50400
  changes := []
  rule := ⟨"+14", 50400, none⟩

end VirtualClock.Atlas
