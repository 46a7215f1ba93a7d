import DhcpLeasing.CommandLine.Execution
import DhcpLeasing.Proofs.Checks
import DhcpLeasing.Proofs.Config.Json
import DhcpLeasing.Proofs.Disk

/-!
# Configuration files, saved and loaded

A configuration is read from the text that it is saved as, whatever it holds. Loading adds the
checks: a configuration that fails them is refused, and its file stays.

* `ConfigFile.parse?_render` says that nothing of a configuration is lost in its text;
* `ConfigFile.loadOrCreate_of_readText` says what comes of loading a saved configuration;
* `ConfigFile.saved_config_loads` says what follows for files that are there and files that are not.
-/

namespace DhcpLeasing.ConfigFile

open CommandLine

variable {c c' : Config} {path place : String} {disk disk' : Disk} {e : LeaseError}

/-! ## Saved configurations -/

/-- **A configuration is read from its text as it was.** -/
theorem parse?_render (c : Config) : parse? (render c) = some c := by
  rw [parse?, render, Json.ofText?_indented c.spelled_toJson, Option.bind_some, c.ofJson?_toJson]

/-- A configuration can be saved where there can be a file. -/
lemma exists_save (h : disk.locate path = .file place) (c : Config) :
    ∃ disk', save path c disk = .ok disk' ∧ disk'.readText path = some (render c) := by
  have hwrite := Disk.writeText_of_locate h (render c)
  refine ⟨_, ?_, Disk.readText_of_writeText hwrite⟩
  rw [save, hwrite]

/-- What comes of loading a configuration is up to its checks. -/
lemma loadOrCreate_of_parse? {text : String} (htext : disk.readText path = some text)
    (h : parse? text = some c) : loadOrCreate path disk = (do
      c.validate.mapError .invalidConfig
      return (c, disk)) := by
  rw [loadOrCreate, if_pos (Disk.hasPath_of_readText htext)]
  simp only [htext, h]

lemma loadOrCreate_of_readText (h : disk.readText path = some (render c)) :
    loadOrCreate path disk = (do
      c.validate.mapError .invalidConfig
      return (c, disk)) :=
  loadOrCreate_of_parse? h (parse?_render c)

lemma loadOrCreate_eq_ok_iff (h : disk.readText path = some (render c)) :
    loadOrCreate path disk = .ok (c', disk') ↔ (c' = c ∧ disk' = disk) ∧ c.validate = .ok () := by
  rw [loadOrCreate_of_readText h, bind_eq_ok_iff]
  simp only [mapError_eq_ok_iff, pure_eq_ok_iff, Prod.mk.injEq]
  constructor
  · rintro ⟨_, hvalid, rfl, rfl⟩
    exact ⟨⟨rfl, rfl⟩, hvalid⟩
  · rintro ⟨⟨rfl, rfl⟩, hvalid⟩
    exact ⟨(), hvalid, rfl, rfl⟩

lemma loadOrCreate_of_fault {fault : ConfigFault} (h : disk.readText path = some (render c))
    (hfault : c.validate = .error fault) :
    loadOrCreate path disk = .error (.invalidConfig fault) := by
  rw [loadOrCreate_of_readText h, hfault]
  rfl

/-! ## No file yet -/

/-- Where nothing is, the default configuration is saved. -/
lemma loadOrCreate_of_missing (hmissing : disk.hasPath path = false)
    (hsave : save path .default disk = .ok disk') :
    loadOrCreate path disk = .ok (.default, disk') := by
  rw [loadOrCreate, if_neg (by simp [hmissing]), hsave]
  rfl

lemma validate_default : Config.default.validate = .ok () := by
  decide +kernel

/-- Whatever is loaded, or made, has passed its checks and is in a file, and if the path was there
the disk stays as it is. -/
lemma loadOrCreate_cases (h : loadOrCreate path disk = .ok (c, disk')) :
    (∃ text, disk'.readText path = some text ∧ parse? text = some c) ∧ c.validate = .ok () ∧
      (disk.hasPath path → disk' = disk) := by
  unfold loadOrCreate at h
  split at h
  · split at h
    · cases h
    · next text htext =>
      split at h
      · cases h
      · next c₀ hparse =>
        simp only [bind_eq_ok_iff, mapError_eq_ok_iff, pure_eq_ok_iff, Prod.mk.injEq] at h
        obtain ⟨_, hvalid, rfl, rfl⟩ := h
        exact ⟨⟨text, htext, hparse⟩, hvalid, fun _ => rfl⟩
  · next hmissing =>
    simp only [bind_eq_ok_iff, pure_eq_ok_iff, Prod.mk.injEq] at h
    obtain ⟨made, hsave, rfl, rfl⟩ := h
    refine ⟨⟨_, ?_, parse?_render .default⟩, validate_default, fun hthere => absurd hthere hmissing⟩
    unfold save at hsave
    split at hsave
    · next written hwrite =>
      obtain rfl := Except.ok.inj hsave
      exact Disk.readText_of_writeText hwrite
    · cases hsave

/-- What has been loaded is loaded again, as long as its file stays. -/
lemma loadOrCreate_again {disk₁ : Disk} (h : loadOrCreate path disk = .ok (c, disk'))
    (hsame : disk₁.readText path = disk'.readText path) :
    loadOrCreate path disk₁ = .ok (c, disk₁) := by
  obtain ⟨⟨text, htext, hparse⟩, hvalid, -⟩ := loadOrCreate_cases h
  rw [loadOrCreate_of_parse? (hsame.trans htext) hparse, hvalid]
  rfl

/-! ## Commands -/

/-- A command whose configuration cannot be loaded leaves the disk as it is. -/
lemma execute_of_unloaded {now : ℕ} {arguments : List String} {command : Command}
    (hdemand : demand arguments = .command command path)
    (h : loadOrCreate path disk = .error e) : execute now arguments disk = .failed e disk := by
  rw [execute, hdemand]
  simp only [h]

/-- **Saved configurations load back.** From the text of any configuration the same one is read,
whose text is the same again. It can be saved wherever there can be a file. Loading the file gives
that configuration, and leaves the disk as it is, exactly if it passes its checks; otherwise the
configuration is refused for what is wrong with it, and so is every command that needs it, which
leaves the disk as it is, too. Where there is no file but could be one, the default configuration is
saved, and from then on it is loaded. -/
theorem saved_config_loads :
    (∀ c, parse? (render c) = some c ∧ ∀ {c'}, parse? (render c) = some c' → render c' = render c) ∧
    (∀ {path place disk}, disk.locate path = .file place → ∀ c, ∃ disk',
      save path c disk = .ok disk' ∧ disk'.readText path = some (render c)) ∧
    (∀ {path disk c}, disk.readText path = some (render c) →
      (∀ c' disk', loadOrCreate path disk = .ok (c', disk') ↔
        (c' = c ∧ disk' = disk) ∧ c.validate = .ok ()) ∧
      ∀ {fault}, c.validate = .error fault →
        loadOrCreate path disk = .error (.invalidConfig fault) ∧
        ∀ {now arguments command}, demand arguments = .command command path →
          execute now arguments disk = .failed (.invalidConfig fault) disk) ∧
    ∀ {path place disk}, disk.locate path = .file place → disk.hasPath path = false →
      ∃ disk', loadOrCreate path disk = .ok (.default, disk') ∧
        disk'.readText path = some (render .default) ∧
        loadOrCreate path disk' = .ok (.default, disk') := by
  refine ⟨?_, exists_save, ?_, ?_⟩
  · intro c
    refine ⟨parse?_render c, ?_⟩
    intro c' h
    rw [parse?_render] at h
    rw [Option.some.inj h]
  · intro path disk c h
    refine ⟨fun c' disk' => loadOrCreate_eq_ok_iff h, ?_⟩
    intro fault hfault
    have hload := loadOrCreate_of_fault h hfault
    exact ⟨hload, fun hdemand => execute_of_unloaded hdemand hload⟩
  · intro path place disk hplace hmissing
    obtain ⟨disk', hsave, htext⟩ := exists_save hplace .default
    exact ⟨disk', loadOrCreate_of_missing hmissing hsave, htext,
      (loadOrCreate_eq_ok_iff htext).2 ⟨⟨rfl, rfl⟩, validate_default⟩⟩

/-- The longest probe timeout and an interface without families, whose name has a quote and a line
break in it, are saved and loaded. Without a local domain the configuration is saved, but commands
refuse it. On a disk without files the default configuration is saved. -/
theorem exists_saved_config_loads :
    let disk : Disk := .ofFiles []
    let c : Config :=
      { Config.default with
        interfaces := .ofList [("\"é\n", ⟨none, none⟩)]
        probeTimeoutMillis := 18446744073709551615 }
    let c' : Config := { Config.default with localDomain := "" }
    (disk.locate "config.json" = .file "config.json" ∧ disk.hasPath "config.json" = false ∧
        c.validate = .ok () ∧ c'.validate = .error .noDomain ∧
          demand [] = .command .run "config.json") ∧
      parse? (render c) = some c ∧
        (∃ d, save "config.json" c disk = .ok d ∧ loadOrCreate "config.json" d = .ok (c, d)) ∧
          (∃ d, save "config.json" c' disk = .ok d ∧
            execute 0 [] d = .failed (.invalidConfig .noDomain) d) ∧
            ∃ d, loadOrCreate "config.json" disk = .ok (.default, d) ∧
              loadOrCreate "config.json" d = .ok (.default, d) := by
  intro disk c c'
  have hplace : disk.locate "config.json" = .file "config.json" := by decide +kernel
  have hmissing : disk.hasPath "config.json" = false := by decide +kernel
  have hvalid : c.validate = .ok () := by decide +kernel
  have hfault : c'.validate = .error .noDomain := by decide +kernel
  have hdemand : demand [] = .command .run "config.json" := by decide +kernel
  obtain ⟨hparse, hsave, hload, hcreate⟩ := saved_config_loads
  obtain ⟨d, hd, htext⟩ := hsave hplace c
  obtain ⟨d', hd', htext'⟩ := hsave hplace c'
  obtain ⟨made, hmade, -, hagain⟩ := hcreate hplace hmissing
  exact ⟨⟨hplace, hmissing, hvalid, hfault, hdemand⟩, (hparse c).1,
    ⟨d, hd, ((hload htext).1 c d).2 ⟨⟨rfl, rfl⟩, hvalid⟩⟩,
    ⟨d', hd', ((hload htext').2 hfault).2 hdemand⟩, made, hmade, hagain⟩

end DhcpLeasing.ConfigFile
