import Casefile.Proofs.Disk.Recovery
import Casefile.Proofs.Wire.Saved
import Casefile.Save.Vault

namespace Casefile

/-!
What a vault holds after a save, a removal or a load.

A vault that saved a state loads that state, one that was cleared loads none, and loading changes
nothing the second time; in all three cases the vault is afterwards as the load leaves it.
-/

namespace Disk

variable {disk after : Disk} {path : Path} {state : GameState} {bytes : ByteArray}

theorem fromUTF8?_toUTF8 (text : String) : String.fromUTF8? text.toUTF8 = some text := by
  have valid : text.toUTF8.IsValidUTF8 := text.isValidUTF8
  rw [String.fromUTF8?, dif_pos valid]
  rfl

theorem saveGame_invert (saved : disk.saveGame path state = (.ok (), after)) :
    disk.replaceFile path (Wire.encode state).pretty.toUTF8 = (.ok (), after) := by
  unfold saveGame at saved
  split at saved
  next replaced =>
    cases saved
    exact replaced
  next => cases saved

theorem clearGame_invert (cleared : disk.clearGame path = (.ok (), after)) :
    disk.removeWithBackup path = (.ok (), after) := by
  unfold clearGame at cleared
  split at cleared
  next removed =>
    cases cleared
    exact removed
  next => cases cleared

theorem loadGame_of_saveGame (saved : disk.saveGame path state = (.ok (), after)) :
    after.loadGame path = (.ok (some state), after) := by
  have read := readBytes_of_replaceFile (saveGame_invert saved)
  have idle := recover_eq_self (.inl (pathExists_of_readBytes read))
  have text : after.readText path = .ok (Wire.encode state).pretty := by
    simp only [readText, read, fromUTF8?_toUTF8]
  simp only [loadGame, idle, text, Wire.read_pretty]

theorem loadGame_of_clearGame (cleared : disk.clearGame path = (.ok (), after)) :
    after.loadGame path = (.ok none, after) := by
  obtain ⟨noFile, noBackup⟩ := missing_of_removeWithBackup (clearGame_invert cleared)
  have idle : after.recover path = (false, after) :=
    recover_eq_self (.inr (by simp [pathExists, noBackup]))
  simp [loadGame, idle, readText, readBytes, noFile]

theorem loadGame_eq (disk : Disk) (path : Path) :
    (disk.loadGame path).2 = (disk.recover path).2 := by
  unfold loadGame
  dsimp only
  split
  · rfl
  · rfl
  · split <;> rfl

theorem loadGame_loadGame (disk : Disk) (path : Path) :
    (disk.loadGame path).2.loadGame path = disk.loadGame path := by
  rw [loadGame_eq]
  unfold loadGame
  rw [recover_recover]

end Disk

namespace Vault

variable {vault after : Vault} {state : GameState}

theorem load_of_save (saved : vault.save state = (.ok (), after)) :
    after.load = (.ok (some state), after) := by
  cases vault with
  | memory slot =>
      cases failing : slot.failing with
      | true => simp [save, Slot.save, failing] at saved
      | false =>
          simp only [save, Slot.save, failing, Bool.false_eq_true, if_false] at saved
          cases saved
          simp [load, Slot.load, Wire.read_compact]
  | file disk path =>
      cases written : disk.saveGame path state with
      | mk result left =>
          simp only [save, written] at saved
          cases saved
          simp only [load, Disk.loadGame_of_saveGame written]

theorem load_of_clear (cleared : vault.clear = (.ok (), after)) :
    (∀ state, after.load.1 ≠ .ok (some state)) ∧ after.load.2 = after := by
  cases vault with
  | memory slot =>
      cases failing : slot.failing with
      | true => simp [clear, Slot.clear, failing] at cleared
      | false =>
          simp only [clear, Slot.clear, failing, Bool.false_eq_true, if_false] at cleared
          cases cleared
          simp [load, Slot.load]
  | file disk path =>
      cases removed : disk.clearGame path with
      | mk result left =>
          simp only [clear, removed] at cleared
          cases cleared
          simp [load, Disk.loadGame_of_clearGame removed]

theorem load_load (vault : Vault) : vault.load.2.load = vault.load := by
  cases vault with
  | memory slot => rfl
  | file disk path =>
      have again := disk.loadGame_loadGame path
      simp only [load, again]

end Vault

end Casefile
