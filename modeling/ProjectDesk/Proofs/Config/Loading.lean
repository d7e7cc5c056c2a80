import ProjectDesk.Config.Loading
import ProjectDesk.Proofs.Config.Codec
import ProjectDesk.Proofs.Json.Indented

/-!
Saving a configuration and loading it again. Only what passes the check is saved, and it is loaded
as it was. Loading gives what passes the check as well, from whatever the file holds, so what was
loaded can be saved.
-/

namespace ProjectDesk

open Json

namespace Config

variable {c : Config}

theorem read_indented (fits : c.Fits) : read c.toValue.indented = some c := by
  rw [read, Value.read_indented c.isWhole_toValue, Option.bind_some, ofDocument_toValue fits]

theorem ofText_indented (fits : c.Fits) (valid : c.check = .ok ()) :
    ofText c.toValue.indented = (c, []) := by
  simp only [ofText, read_indented fits, valid]

/-- A text gives a configuration that could be saved. -/
theorem sound_ofText (text : String) :
    (ofText text).1.Fits ∧ (ofText text).1.check = .ok () := by
  unfold ofText
  split
  · exact ⟨.default, rfl⟩
  · rename_i config found
    obtain ⟨d, -, decoded⟩ := Option.bind_eq_some_iff.mp found
    split
    · rename_i valid
      exact ⟨fits_of_ofDocument decoded, valid⟩
    · exact ⟨.default, rfl⟩

end Config

namespace ConfigFile

variable {c : Config} {f f' : ConfigFile} {text : String}

/-- A file is there, or can be made. -/
def Writable (f : ConfigFile) : Prop :=
  f = .absent ∨ ∃ bytes, f = .file bytes

theorem text?_file (text : String) : (ConfigFile.file text.toUTF8).text? = some text := by
  simp [text?, String.fromUTF8?, String.fromUTF8, text.isValidUTF8]

theorem write_eq_ok_iff : f.write text = (.ok (), f') ↔ f.Writable ∧ f' = .file text.toUTF8 := by
  cases f <;> simp [write, Writable, eq_comm]

theorem save_eq_ok_iff :
    f.save c = (.ok (), f') ↔
      (f.Writable ∧ c.check = .ok ()) ∧ f' = .file c.toValue.indented.toUTF8 := by
  unfold save
  split
  · rename_i fault rejected
    simp [rejected]
  · rename_i valid
    rw [write_eq_ok_iff, valid]
    simp

theorem sound_load (f : ConfigFile) : f.load.1.Fits ∧ f.load.1.check = .ok () := by
  unfold load
  split
  · exact Config.sound_ofText _
  · exact ⟨.default, rfl⟩

theorem load_of_save (fits : c.Fits) (h : f.save c = (.ok (), f')) : f'.load = (c, []) := by
  obtain ⟨⟨-, valid⟩, rfl⟩ := save_eq_ok_iff.mp h
  rw [load, text?_file]
  exact Config.ofText_indented fits valid

/-- A faulty configuration leaves the file as it was. Whatever `f` holds, what is loaded from it can
be saved in any place `g` and is loaded again. -/
theorem save_and_load (c : Config) (f : ConfigFile) :
    ((∃ f', f.save c = (.ok (), f')) ↔ f.Writable ∧ c.check = .ok ()) ∧
      (∀ fault, c.check = .error fault → f.save c = (.error (.rejected fault), f)) ∧
      (c.Fits → ∀ f', f.save c = (.ok (), f') → f'.load = (c, [])) ∧
      ∀ g : ConfigFile, g.Writable →
        ∃ g', g.save f.load.1 = (.ok (), g') ∧ g'.load = (f.load.1, []) := by
  refine ⟨?_, ?_, fun fits f' => load_of_save fits, ?_⟩
  · simp only [save_eq_ok_iff, exists_and_left, exists_eq, and_true]
  · intro fault faulty
    rw [save, faulty]
  · intro g writable
    obtain ⟨fits, valid⟩ := sound_load f
    have saved := save_eq_ok_iff.mpr ⟨⟨writable, valid⟩, rfl⟩
    exact ⟨_, saved, load_of_save fits saved⟩

theorem save_and_load_marks :
    let c : Config := { productName := "\"\\\x01\nÜ", quota := { storagePerProject := 0 },
                        jobService := { url := some "" } }
    ∃ f', ConfigFile.absent.save c = (.ok (), f') ∧ f'.load = (c, []) := by
  intro c
  obtain ⟨saves, -, loads, -⟩ := save_and_load c .absent
  obtain ⟨f', saved⟩ := saves.mpr ⟨.inl rfl, rfl⟩
  exact ⟨f', saved, loads ⟨⟨by decide⟩, ⟨by decide⟩, ⟨by decide, by decide, by decide⟩⟩ f' saved⟩

end ConfigFile
end ProjectDesk
