import RmtLibrary.RmtConfig

/-! # The fields of the configuration

Where the stores of the table search land. A number changes four bytes of its own field. A text
stays in its field if it is shorter than the field. -/
namespace ConfigFields

open ByteBlock (littleEndian ofLittleEndian read write)
open CString (Text Memory nul)
open RmtConfig

def fields (zenoh : Bool) : List Field := (gConfigMapping zenoh).map ConfigMapping.pointer

theorem fields_apart {f g : Field} (h : f ≠ g) :
    f.offset + f.size ≤ g.offset ∨ g.offset + g.size ≤ f.offset := by
  cases f <;> cases g <;> first | exact absurd rfl h | decide

theorem field_fits (zenoh : Bool) :
    ∀ f ∈ fields zenoh, f.offset + f.size ≤ sizeofRmtConfig zenoh := by
  cases zenoh <;> decide

/-- Every entry stores into a field that is wide enough for what it stores at least. -/
theorem mapping_size (zenoh : Bool) : ∀ mapping ∈ gConfigMapping zenoh,
    (mapping.type = .string → mapping.pointer.size = 40) ∧
      (mapping.type = .int → mapping.pointer.size = 4 ∨ mapping.pointer.size = 8) := by
  cases zenoh <;> decide

theorem next_field (zenoh : Bool) : ∀ mapping ∈ gConfigMapping zenoh, mapping.type = .string →
    ∃ g ∈ fields zenoh, g ≠ mapping.pointer ∧ g.offset = mapping.pointer.offset + 40 := by
  cases zenoh <;> decide

theorem mem_fields {zenoh : Bool} {mapping : ConfigMapping} (h : mapping ∈ gConfigMapping zenoh) :
    mapping.pointer ∈ fields zenoh := List.mem_map_of_mem h

theorem mapping_name (zenoh : Bool) : ∀ mapping ∈ gConfigMapping zenoh,
    mapping.name ≠ [] ∧ ':' ∉ mapping.name ∧ nul ∉ mapping.name ∧ mapping.name.length < 128 ∧
      mapping.name.head? ≠ some '#' ∧ mapping.name.head? ≠ some '\n' ∧
      (gConfigMapping zenoh).find? (·.name == mapping.name) = some mapping := by
  cases zenoh <;> decide

set_option maxRecDepth 4000 in
theorem length_initRmtCfg (zenoh : Bool) :
    (initRmtCfg zenoh).length = sizeofRmtConfig zenoh := by
  cases zenoh <;> rfl

def cells (mapping : ConfigMapping) (value : Text) : Memory :=
  match mapping.type with
  | .string => value ++ [nul]
  | .int => littleEndian 4 (CString.atoi value).toNat

def Fits (zenoh : Bool) (mapping : ConfigMapping) (value : Text) : Prop :=
  mapping.type = .string → mapping.pointer.offset + value.length < sizeofRmtConfig zenoh

variable {zenoh : Bool} {mapping : ConfigMapping} {value : Text} {cfg cfg' : Memory}

theorem length_text (htype : mapping.type = .string) :
    (cells mapping value).length = value.length + 1 := by
  simp [cells, htype]

theorem length_number (htype : mapping.type = .int) : (cells mapping value).length = 4 := by
  simp [cells, htype]

theorem cells_pos (mapping : ConfigMapping) (value : Text) : 0 < (cells mapping value).length := by
  rw [cells]
  split <;> simp

theorem cells_fit (hm : mapping ∈ gConfigMapping zenoh) (hfits : Fits zenoh mapping value) :
    mapping.pointer.offset + (cells mapping value).length ≤ sizeofRmtConfig zenoh := by
  have hfield := field_fits zenoh _ (mem_fields hm)
  cases htype : mapping.type with
  | string =>
    have hlt := hfits htype
    rw [length_text htype]
    omega
  | int =>
    have hwide := (mapping_size zenoh mapping hm).2 htype
    rw [length_number htype]
    omega

theorem storeValue_eq (mapping : ConfigMapping) (value : Text)
    (hlen : cfg.length = sizeofRmtConfig zenoh) :
    (Fits zenoh mapping value ∧
      storeValue mapping value cfg = some (write cfg mapping.pointer.offset
        (cells mapping value))) ∨
    (¬ Fits zenoh mapping value ∧ storeValue mapping value cfg = none) := by
  rw [storeValue, cells, Fits]
  cases mapping.type with
  | int => exact Or.inl ⟨by rintro ⟨⟩, rfl⟩
  | string =>
    by_cases hlt : mapping.pointer.offset + value.length < sizeofRmtConfig zenoh
    · exact Or.inl ⟨fun _ => hlt, if_pos (by rwa [hlen])⟩
    · exact Or.inr ⟨fun h => hlt (h rfl), if_neg (by rwa [hlen])⟩

/-- A store keeps the size of the block and all cells it does not write. -/
theorem storeValue_frame (hm : mapping ∈ gConfigMapping zenoh)
    (hlen : cfg.length = sizeofRmtConfig zenoh) (hs : storeValue mapping value cfg = some cfg') :
    cfg'.length = sizeofRmtConfig zenoh ∧
      cfg' = write cfg mapping.pointer.offset (cells mapping value) ∧
      mapping.pointer.offset + (cells mapping value).length ≤ cfg.length := by
  rcases storeValue_eq mapping value hlen with
    ⟨hfits, heq⟩ | ⟨-, hnone⟩
  · obtain rfl := Option.some.inj (heq.symm.trans hs)
    have hcells := cells_fit hm hfits
    rw [← hlen] at hcells
    exact ⟨(ByteBlock.length_write hcells).trans hlen, rfl, hcells⟩
  · rw [hnone] at hs
    cases hs

def bytes (f : Field) (cfg : Memory) : Memory := read cfg f.offset f.size

/-- A text that is shorter than its field, and any number, stays in its own field. -/
def Inside (mapping : ConfigMapping) (value : Text) : Prop :=
  mapping.type = .string → value.length < 40

theorem cells_inside (hm : mapping ∈ gConfigMapping zenoh) (hin : Inside mapping value) :
    (cells mapping value).length ≤ mapping.pointer.size := by
  cases htype : mapping.type with
  | string =>
    have hlt := hin htype
    have h40 := (mapping_size zenoh mapping hm).1 htype
    rw [length_text htype]
    omega
  | int =>
    have hwide := (mapping_size zenoh mapping hm).2 htype
    rw [length_number htype]
    omega

theorem storeValue_inside (hm : mapping ∈ gConfigMapping zenoh)
    (hlen : cfg.length = sizeofRmtConfig zenoh) (hin : Inside mapping value) :
    ∃ cfg', storeValue mapping value cfg = some cfg' ∧ cfg'.length = sizeofRmtConfig zenoh ∧
      ∀ g, g ≠ mapping.pointer → bytes g cfg' = bytes g cfg := by
  have hfield := field_fits zenoh _ (mem_fields hm)
  have hcells := cells_inside hm hin
  have hfits : Fits zenoh mapping value := by
    intro htype
    have hlt := hin htype
    have h40 := (mapping_size zenoh mapping hm).1 htype
    omega
  rcases storeValue_eq mapping value hlen with ⟨-, heq⟩ | ⟨hnot, -⟩
  · obtain ⟨hlen', -, hle⟩ := storeValue_frame hm hlen heq
    refine ⟨_, heq, hlen', ?_⟩
    intro g hg
    apply ByteBlock.read_write_apart hle
    rcases fields_apart hg with h | h
    · exact Or.inl h
    · exact Or.inr (by omega)
  · exact absurd hfits hnot

end ConfigFields
