import ItemSieve.Patch.Basic

/-!
# The table of patches

The releases from 1.0 to 7.3, each expansion led by its header.
-/

namespace ItemSieve.Patch

/-- The row for the slot in which nothing is chosen. -/
def unselected : Patch :=
  ⟨0, 0, "Select a patch...", "999", false⟩

/-- The patches in order, numbered from 0. -/
def table : List Patch := [
  unselected,
  ⟨1, 10, "Final Fantasy XIV", "1.0", false⟩,
  ⟨2, 20, "A Realm Reborn", "ARR", true⟩,
  ⟨3, 21, "A Realm Reborn", "2.0", false⟩,
  ⟨4, 22, "A Realm Awoken", "2.1", false⟩,
  ⟨5, 23, "Through the Maelstrom", "2.2", false⟩,
  ⟨6, 24, "Defenders of Eorzea", "2.3", false⟩,
  ⟨7, 25, "Dreams of Ice", "2.4", false⟩,
  ⟨8, 26, "Before the Fall", "2.5", false⟩,
  ⟨9, 30, "Heavensward", "HW", true⟩,
  ⟨10, 31, "Heavensward", "3.0", false⟩,
  ⟨11, 32, "As Goes Light, So Goes Darkness", "3.1", false⟩,
  ⟨12, 33, "The Gears of Change", "3.2", false⟩,
  ⟨13, 34, "Revenge of the Horde", "3.3", false⟩,
  ⟨14, 35, "Soul Surrender", "3.4", false⟩,
  ⟨15, 36, "The Far Edge of Fate", "3.5", false⟩,
  ⟨16, 40, "Stormblood", "SB", true⟩,
  ⟨17, 41, "Stormblood", "4.0", false⟩,
  ⟨18, 42, "The Legend Returns", "4.1", false⟩,
  ⟨19, 43, "Rise of a New Sun", "4.2", false⟩,
  ⟨20, 44, "Under the Moonlight", "4.3", false⟩,
  ⟨21, 45, "Prelude in Violet", "4.4", false⟩,
  ⟨22, 46, "A Requiem for Heroes", "4.5", false⟩,
  ⟨23, 50, "Shadowbringers", "ShB", true⟩,
  ⟨24, 51, "Shadowbringers", "5.0", false⟩,
  ⟨25, 52, "Vows of Virtue, Deeds of Cruelty", "5.1", false⟩,
  ⟨26, 53, "Echoes of a Fallen Star", "5.2", false⟩,
  ⟨27, 54, "Reflections in Crystal", "5.3", false⟩,
  ⟨28, 55, "Futures Rewritten", "5.4", false⟩,
  ⟨29, 56, "Death Unto Dawn", "5.5", false⟩,
  ⟨30, 60, "Endwalker", "EW", true⟩,
  ⟨31, 61, "Endwalker", "6.0", false⟩,
  ⟨32, 62, "Newfound Adventure", "6.1", false⟩,
  ⟨33, 63, "Buried Memory", "6.2", false⟩,
  ⟨34, 64, "Gods Revel, Lands Tremble", "6.3", false⟩,
  ⟨35, 65, "The Dark Throne", "6.4", false⟩,
  ⟨36, 66, "Growing Light", "6.5", false⟩,
  ⟨37, 70, "Dawntrail", "DT", true⟩,
  ⟨38, 71, "Dawntrail", "7.0", false⟩,
  ⟨39, 72, "Crossroads", "7.1", false⟩,
  ⟨40, 73, "Seekers of Eternity", "7.2", false⟩,
  ⟨41, 74, "The Promise of Tomorrow", "7.3", false⟩]

end ItemSieve.Patch
