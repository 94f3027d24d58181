import Mathlib.Data.List.Infix
import ConfigLocator.Location

/-!
# The parts of a location

A location that packs several others is split at its delimiters, and every part stands for itself:
splitting a part again gives that part alone (`Location.partsOn_of_mem`). The reason is in the text:
a piece between delimiters has no delimiter inside (`Text.avoids_of_mem_splitOn`), and the text of a
location is the piece that it was read from.
-/

namespace ConfigLocator

namespace Text

/-! ## Pieces between delimiters -/

theorem startsWith_iff {t head : Text} : startsWith t head = true ↔ head <+: t := by
  rw [startsWith, List.isPrefixOf_iff_prefix]

theorem endsWith_iff {t tail : Text} : endsWith t tail = true ↔ tail <:+ t := by
  rw [endsWith, List.isSuffixOf_iff_suffix]

/-- The delimiter begins nowhere in the text. -/
def Avoids (delimiter t : Text) : Prop := ∀ rest, rest <:+ t → ¬delimiter <+: rest

theorem avoids_nil {delimiter : Text} (hd : delimiter ≠ []) : Avoids delimiter [] := by
  intro rest hrest hpre
  rw [List.suffix_nil.mp hrest, List.prefix_nil] at hpre
  exact hd hpre

theorem avoids_cons {delimiter : Text} {c : Nat} {t : Text} :
    Avoids delimiter (c :: t) ↔ ¬delimiter <+: c :: t ∧ Avoids delimiter t := by
  simp only [Avoids, List.suffix_cons_iff]
  constructor
  · intro h
    exact ⟨h _ (Or.inl rfl), fun rest hrest => h rest (Or.inr hrest)⟩
  · rintro ⟨hhead, htail⟩ rest (rfl | hrest)
    · exact hhead
    · exact htail rest hrest

theorem avoids_of_not_mem {delimiter t : Text} (hd : delimiter ≠ []) (h : ∀ c ∈ delimiter, c ∉ t) :
    Avoids delimiter t := by
  rintro rest hrest hpre
  obtain ⟨c, more, rfl⟩ := List.exists_cons_of_ne_nil hd
  exact h c List.mem_cons_self (hrest.subset (hpre.subset List.mem_cons_self))

theorem splitAfter_ne_nil (delimiter : Text) (skip : Nat) (t : Text) :
    splitAfter delimiter skip t ≠ [] := by
  induction t generalizing skip with
  | nil => cases skip <;> simp [splitAfter]
  | cons c rest ih =>
      cases skip with
      | succ n => exact ih n
      | zero =>
          simp only [splitAfter]
          split
          · simp
          · unfold consFirst
            split <;> simp

/-- The first piece is where the text begins. -/
theorem prefix_of_splitAfter {delimiter t piece : Text} {pieces : List Text}
    (h : splitAfter delimiter 0 t = piece :: pieces) : piece <+: t := by
  induction t generalizing piece pieces with
  | nil =>
      obtain ⟨rfl, -⟩ := List.cons.inj h
      exact List.prefix_refl _
  | cons c rest ih =>
      simp only [splitAfter] at h
      split at h
      · obtain ⟨rfl, -⟩ := List.cons.inj h
        exact List.nil_prefix
      · cases hrest : splitAfter delimiter 0 rest with
        | nil => exact absurd hrest (splitAfter_ne_nil delimiter 0 rest)
        | cons first others =>
            rw [hrest, consFirst] at h
            obtain ⟨rfl, -⟩ := List.cons.inj h
            exact (List.prefix_cons_inj c).mpr (ih hrest)

/-- A piece begins with no delimiter, since the text there does not, and the rest of the piece is a
piece of the rest of the text. -/
theorem avoids_of_mem_splitAfter {delimiter : Text} (hd : delimiter ≠ []) {skip : Nat}
    {t piece : Text} (h : piece ∈ splitAfter delimiter skip t) : Avoids delimiter piece := by
  induction t generalizing skip piece with
  | nil =>
      have hpiece : piece = [] := by cases skip <;> simpa [splitAfter] using h
      rw [hpiece]
      exact avoids_nil hd
  | cons c rest ih =>
      cases skip with
      | succ n => exact ih h
      | zero =>
          simp only [splitAfter] at h
          split at h
          · rcases List.mem_cons.mp h with rfl | hlater
            · exact avoids_nil hd
            · exact ih hlater
          · rename_i hstart
            cases hrest : splitAfter delimiter 0 rest with
            | nil => exact absurd hrest (splitAfter_ne_nil delimiter 0 rest)
            | cons first others =>
                have hmem : ∀ p ∈ first :: others, p ∈ splitAfter delimiter 0 rest :=
                  fun p hp => hrest ▸ hp
                rw [hrest, consFirst] at h
                rcases List.mem_cons.mp h with rfl | hlater
                · refine avoids_cons.mpr ⟨fun hpre => hstart ?_, ih (hmem _ (List.mem_cons_self ..))⟩
                  have hfirst := prefix_of_splitAfter hrest
                  exact startsWith_iff.mpr (hpre.trans ((List.prefix_cons_inj c).mpr hfirst))
                · exact ih (hmem _ (List.mem_cons_of_mem first hlater))

theorem avoids_of_mem_splitOn {delimiter t piece : Text} (hd : delimiter ≠ [])
    (h : piece ∈ splitOn delimiter t) : Avoids delimiter piece :=
  avoids_of_mem_splitAfter hd h

theorem splitOn_of_avoids {delimiter t : Text} (h : Avoids delimiter t) :
    splitOn delimiter t = [t] := by
  unfold splitOn
  induction t with
  | nil => rfl
  | cons c rest ih =>
      obtain ⟨hhead, htail⟩ := avoids_cons.mp h
      have hstart : ¬startsWith (c :: rest) delimiter = true :=
        fun hs => hhead (startsWith_iff.mp hs)
      rw [splitAfter, if_neg hstart, ih htail, consFirst]

end Text

namespace Location

/-! ## Parts -/

theorem origin_of? {t : Text} {origin : Option Text} {l : Location} (h : of? t origin = some l) :
    l.origin = origin := by
  unfold of? at h
  split at h <;> split at h <;> cases h <;> rfl

theorem mem_partsOn {delimiter : Text} {l part : Location} (h : part ∈ l.partsOn delimiter) :
    part.toText ∈ Text.splitOn delimiter l.toText ∧ of? part.toText l.origin = some part := by
  obtain ⟨piece, hpiece, hpart⟩ := List.mem_filterMap.mp h
  rw [toText_of? hpart]
  exact ⟨hpiece, hpart⟩

theorem origin_of_mem_parts {l part : Location} (h : part ∈ l.parts) : part.origin = l.origin :=
  origin_of? (mem_partsOn h).2

/-- A part has one part, itself. -/
theorem partsOn_of_mem {delimiter : Text} (hd : delimiter ≠ []) {l part : Location}
    (h : part ∈ l.partsOn delimiter) : part.partsOn delimiter = [part] := by
  obtain ⟨hpiece, hpart⟩ := mem_partsOn h
  have horigin : part.origin = l.origin := origin_of? hpart
  rw [partsOn, Text.splitOn_of_avoids (Text.avoids_of_mem_splitOn hd hpiece), horigin]
  simp [hpart]

theorem locationDelimiter_ne_nil : locationDelimiter ≠ [] := by decide

/-- A text without delimiters has one part. -/
theorem parts_of_of? {t : Text} {origin : Option Text} {l : Location} (h : of? t origin = some l)
    (hdelimiter : ∀ c ∈ locationDelimiter, c ∉ t) : l.parts = [l] := by
  have havoids := Text.avoids_of_not_mem locationDelimiter_ne_nil hdelimiter
  rw [parts, partsOn, toText_of? h, Text.splitOn_of_avoids havoids, origin_of? h]
  simp [h]

theorem parts_of_mem_parts {l part : Location} (h : part ∈ l.parts) : part.parts = [part] :=
  partsOn_of_mem locationDelimiter_ne_nil h

/-! ## The same location -/

theorem same_iff {a b : Location} :
    a.same b = true ↔ a.value = b.value ∧ a.isOptional = b.isOptional := by
  simp [same]

theorem same_refl (a : Location) : a.same a = true := same_iff.mpr ⟨rfl, rfl⟩

/-- Among locations of one origin, the same is equal. -/
theorem eq_of_same {a b : Location} (horigin : a.origin = b.origin) (h : a.same b = true) :
    a = b := by
  obtain ⟨hvalue, hoptional⟩ := same_iff.mp h
  cases a
  cases b
  simp_all

end Location

end ConfigLocator
