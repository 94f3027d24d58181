import ConfigLocator.Proofs.Scheme

/-!
# Locations packed into one text

The text of a location is the text that it was read from, and the parts of a location are what can be
read from the pieces of that text (`Location.of?_split`). `Text.Pieces` says what the pieces are: the
delimiter is found from the left, and each time as early as it can be.

Of the pieces some are no locations. Those that are left are still the pieces of the text that they
make together (`Text.Pieces.sublist`), so a text packed from parts has these parts.
-/

namespace ConfigLocator

namespace Text

variable {delimiter s t : Text} {pieces : List Text}

/-! ## The pieces of a text -/

/-- The pieces between the occurrences of a delimiter. Before an occurrence that ends a piece none has
begun. -/
inductive Pieces (delimiter : Text) : Text → List Text → Prop
  | last {piece : Text} (h : Avoids delimiter piece) : Pieces delimiter piece [piece]
  | cut {piece rest : Text} {pieces : List Text} (hfirst : Avoids delimiter (piece ++ delimiter.dropLast))
      (h : Pieces delimiter rest pieces) :
      Pieces delimiter (piece ++ (delimiter ++ rest)) (piece :: pieces)

theorem Avoids.of_append (h : Avoids delimiter (s ++ t)) : Avoids delimiter s := by
  rintro _ ⟨before, rfl⟩ ⟨more, hmore⟩
  refine h (delimiter ++ more ++ t) ⟨before, ?_⟩ ⟨more ++ t, (List.append_assoc ..).symm⟩
  rw [hmore, List.append_assoc]

theorem avoids_of_length_lt (h : t.length < delimiter.length) : Avoids delimiter t := by
  intro rest hrest hpre
  have hlonger := hpre.length_le.trans hrest.length_le
  omega

/-- Whether the delimiter begins at a place is seen within its length. -/
theorem prefix_append_dropLast (hd : delimiter ≠ []) (hs : s ≠ []) :
    delimiter <+: s ++ delimiter.dropLast ↔ delimiter <+: s ++ (delimiter ++ t) := by
  have hwhole : s ++ (delimiter ++ t) = (s ++ delimiter.dropLast) ++ (delimiter.getLast hd :: t) := by
    rw [List.append_assoc, List.append_cons, List.dropLast_append_getLast hd]
  have hlength : delimiter.length ≤ (s ++ delimiter.dropLast).length := by
    have := List.length_pos_iff.mpr hs
    rw [List.length_append, List.length_dropLast]
    omega
  rw [hwhole]
  exact ⟨fun h => h.trans (List.prefix_append _ _),
    fun h => List.prefix_of_prefix_length_le h (List.prefix_append _ _) hlength⟩

theorem splitAfter_length (delimiter skipped t : Text) :
    splitAfter delimiter skipped.length (skipped ++ t) = splitAfter delimiter 0 t := by
  induction skipped with
  | nil => rfl
  | cons c skipped ih => exact ih

theorem splitOn_append_self (hd : delimiter ≠ []) (t : Text) :
    splitOn delimiter (delimiter ++ t) = [] :: splitOn delimiter t := by
  obtain ⟨c, rest, rfl⟩ := List.exists_cons_of_ne_nil hd
  have hstarts : startsWith (c :: (rest ++ t)) (c :: rest) = true :=
    startsWith_iff.mpr (List.prefix_append (c :: rest) t)
  rw [splitOn, List.cons_append, splitAfter, if_pos hstarts]
  exact congrArg _ (splitAfter_length (c :: rest) rest t)

theorem splitOn_append (hd : delimiter ≠ []) (hfirst : Avoids delimiter (s ++ delimiter.dropLast))
    (t : Text) : splitOn delimiter (s ++ (delimiter ++ t)) = s :: splitOn delimiter t := by
  induction s with
  | nil => exact splitOn_append_self hd t
  | cons c s ih =>
      obtain ⟨hhere, hlater⟩ := avoids_cons.mp hfirst
      have hnot : ¬startsWith (c :: (s ++ (delimiter ++ t))) delimiter = true := by
        rw [startsWith_iff]
        exact fun hpre => hhere ((prefix_append_dropLast hd (List.cons_ne_nil c s)).mpr hpre)
      have htail : splitAfter delimiter 0 (s ++ (delimiter ++ t)) = s :: splitOn delimiter t :=
        ih hlater
      rw [splitOn, List.cons_append, splitAfter, if_neg hnot, htail, consFirst]

/-- A character in front, where no delimiter begins, belongs to the first piece. -/
theorem Pieces.cons (hd : delimiter ≠ []) {c : Nat} (h : Pieces delimiter t pieces)
    (hnot : ¬delimiter <+: c :: t) : Pieces delimiter (c :: t) (consFirst c pieces) := by
  cases h with
  | last h => exact .last (avoids_cons.mpr ⟨hnot, h⟩)
  | @cut piece rest pieces hfirst h =>
      refine @Pieces.cut delimiter (c :: piece) rest pieces (avoids_cons.mpr ⟨fun hpre => hnot ?_, hfirst⟩) h
      exact (prefix_append_dropLast hd (List.cons_ne_nil c piece)).mp hpre

theorem pieces_splitOn (hd : delimiter ≠ []) (t : Text) : Pieces delimiter t (splitOn delimiter t) := by
  -- The part behind a delimiter is not the tail of the text, so the induction is on the length.
  induction hlength : t.length using Nat.strongRecOn generalizing t with
  | ind n ih =>
      by_cases hstarts : delimiter <+: t
      · obtain ⟨rest, rfl⟩ := hstarts
        have hpos := List.length_pos_iff.mpr hd
        have hfirst : Avoids delimiter ([] ++ delimiter.dropLast) :=
          avoids_of_length_lt (by rw [List.nil_append, List.length_dropLast]; omega)
        rw [splitOn_append_self hd]
        refine @Pieces.cut delimiter [] rest _ hfirst (ih rest.length ?_ rest rfl)
        rw [← hlength, List.length_append]
        omega
      · cases t with
        | nil => exact .last (avoids_nil hd)
        | cons c t =>
            have hnot : ¬startsWith (c :: t) delimiter = true := mt startsWith_iff.mp hstarts
            rw [splitOn, splitAfter, if_neg hnot]
            exact (ih t.length (by rw [← hlength, List.length_cons]; omega) t rfl).cons hd hstarts

theorem splitOn_eq_iff (hd : delimiter ≠ []) : splitOn delimiter t = pieces ↔ Pieces delimiter t pieces := by
  refine ⟨fun h => h ▸ pieces_splitOn hd t, fun h => ?_⟩
  induction h with
  | last h => exact splitOn_of_avoids h
  | cut hfirst _ ih => rw [splitOn_append hd hfirst, ih]

theorem join_cons (sep piece : Text) (hne : pieces ≠ []) :
    join sep (piece :: pieces) = piece ++ (sep ++ join sep pieces) := by
  cases pieces with
  | nil => exact absurd rfl hne
  | cons other rest => exact List.append_assoc ..

/-- Some of the pieces of a text are the pieces of what they make together. -/
theorem Pieces.sublist (h : Pieces delimiter t pieces) {some : List Text} (hsome : some.Sublist pieces)
    (hne : some ≠ []) : Pieces delimiter (join delimiter some) some := by
  induction h generalizing some with
  | @last piece h =>
      obtain rfl : some = [piece] := (List.sublist_singleton.mp hsome).resolve_left hne
      exact .last h
  | @cut piece rest pieces hfirst _ ih =>
      cases hsome with
      | cons _ hsome => exact ih hsome hne
      | @cons_cons some _ _ hsome =>
          by_cases hnil : some = []
          · subst hnil
            exact .last hfirst.of_append
          · rw [join_cons delimiter piece hnil]
            exact .cut hfirst (ih hsome hnil)

end Text

namespace Location

variable {t : Text} {origin : Option Text} {l : Location}

/-! ## Reading and printing -/

/-- What counts is what stands behind one mark. -/
theorem of?_eq_none_iff :
    of? t origin = none ↔ (Text.dropLeading t optionalMark).isBlankText = true := by
  rw [of?, Text.dropLeading]
  cases Text.dropLeading? optionalMark t with
  | none =>
      dsimp only [Option.getD_none]
      split <;> simp_all
  | some value =>
      dsimp only [Option.getD_some]
      split <;> simp_all

/-- The origin is only carried along. -/
theorem of?_withOrigin (h : of? t origin = some l) (other : Option Text) :
    of? t other = some { l with origin := other } := by
  unfold of? at h ⊢
  split at h <;> split at h <;> cases h
  · rename_i hblank
    exact if_neg hblank
  · rename_i hblank
    exact if_neg hblank

theorem of?_ne_none {c : Nat} (ht : c ∈ t) (hc : isBlank c = false) (hmark : c ∉ optionalMark) :
    of? t origin ≠ none := by
  rw [Ne, of?_eq_none_iff]
  intro hblank
  have hmem : c ∈ Text.dropLeading t optionalMark := by
    rw [Text.dropLeading]
    cases h : Text.dropLeading? optionalMark t with
    | none => exact ht
    | some value =>
        rw [Text.eq_append_of_dropLeading? h] at ht
        exact (List.mem_append.mp ht).resolve_left hmark
  exact Bool.false_ne_true (hc.symm.trans (List.all_eq_true.mp hblank c hmem))

/-! ## Packing the parts again -/

/-- The texts of what can be read from some texts are among these. -/
theorem map_toText_filterMap_sublist (origin : Option Text) (texts : List Text) :
    ((texts.filterMap (of? · origin)).map toText).Sublist texts := by
  induction texts with
  | nil => exact List.Sublist.refl []
  | cons t rest ih =>
      cases h : of? t origin with
      | none =>
          rw [List.filterMap_cons, h]
          exact ih.cons t
      | some l =>
          rw [List.filterMap_cons, h, List.map_cons, toText_of? h]
          exact ih.cons_cons t

theorem filterMap_map_toText {parts : List Location}
    (h : ∀ part ∈ parts, of? part.toText origin = some part) :
    (parts.map toText).filterMap (of? · origin) = parts := by
  rw [List.filterMap_map]
  exact (List.filterMap_congr h).trans List.filterMap_some

/-- The text that parts make together. -/
def pack (parts : List Location) : Text := Text.join locationDelimiter (parts.map toText)

theorem delimiter_mem_pack {parts : List Location} {first second : Location} :
    (';' : Nat) ∈ pack (first :: second :: parts) := by
  rw [pack, List.map_cons, Text.join_cons _ _ (by simp)]
  exact List.mem_append_right _ (List.mem_append_left _ (List.mem_singleton_self _))

theorem parts_of?_pack (h : of? t origin = some l) :
    (l.parts = [] ∧ of? (pack l.parts) origin = none)
      ∨ ∃ again, of? (pack l.parts) origin = some again ∧ again.parts = l.parts := by
  have horigin : l.origin = origin := origin_of? h
  have hread : ∀ part ∈ l.parts, of? part.toText origin = some part := fun part hpart =>
    horigin ▸ (mem_partsOn hpart).2
  have hpieces : (l.parts.map toText).Sublist (Text.splitOn locationDelimiter l.toText) :=
    map_toText_filterMap_sublist l.origin _
  cases hparts : l.parts with
  | nil => exact Or.inl ⟨rfl, rfl⟩
  | cons first rest =>
      rw [hparts] at hread hpieces
      have hsome : of? (pack (first :: rest)) origin ≠ none := by
        cases rest with
        | nil =>
            have hfirst := hread first List.mem_cons_self
            exact fun hnone => by cases hfirst.symm.trans hnone
        | cons second rest => exact of?_ne_none delimiter_mem_pack (by decide) (by decide)
      obtain ⟨again, hagain⟩ := Option.ne_none_iff_exists'.mp hsome
      have hpacked := (Text.pieces_splitOn locationDelimiter_ne_nil l.toText).sublist hpieces (by simp)
      refine Or.inr ⟨again, hagain, ?_⟩
      rw [parts, partsOn, toText_of? hagain, origin_of? hagain, pack,
        (Text.splitOn_eq_iff locationDelimiter_ne_nil).mpr hpacked, filterMap_map_toText hread]

/-- A text is a location unless it is blank behind its mark, and the location prints as the text. Its
parts are read from the pieces of the text, each part has itself as its only part, and the text that
the parts make together has the same parts. -/
theorem of?_split (t : Text) (origin : Option Text) {delimiter : Text} (hd : delimiter ≠ []) :
    (of? t origin = none ↔ (Text.dropLeading t optionalMark).isBlankText = true)
      ∧ ∀ l, of? t origin = some l →
        l.toText = t
          ∧ (∀ other, of? l.toText other = some { l with origin := other })
          ∧ (∃ pieces, Text.Pieces delimiter t pieces
            ∧ l.split? delimiter = some (pieces.filterMap (of? · origin)))
          ∧ (∀ parts, l.split? delimiter = some parts → ∀ part ∈ parts,
            part.origin = origin ∧ part.split? delimiter = some [part])
          ∧ ((l.parts = [] ∧ of? (pack l.parts) origin = none)
            ∨ ∃ again, of? (pack l.parts) origin = some again ∧ again.parts = l.parts) := by
  have hsplit : ∀ l : Location, l.split? delimiter = some (l.partsOn delimiter) := fun l =>
    if_neg (by simp [hd])
  refine ⟨of?_eq_none_iff, fun l hl => ?_⟩
  have htext : l.toText = t := toText_of? hl
  have horigin : l.origin = origin := origin_of? hl
  refine ⟨htext, fun other => htext.symm ▸ of?_withOrigin hl other, ⟨_, Text.pieces_splitOn hd t, ?_⟩,
    fun parts hparts part hpart => ?_, parts_of?_pack hl⟩
  · rw [hsplit, partsOn, htext, horigin]
  · obtain rfl := Option.some.inj ((hsplit l).symm.trans hparts)
    refine ⟨(origin_of? (mem_partsOn hpart).2).trans horigin, ?_⟩
    rw [hsplit, partsOn_of_mem hd hpart]

/-- A delimiter that cuts the mark leaves a piece without one. -/
theorem of?_split_cut_mark :
    ("::" : Text) ≠ []
      ∧ (∃ pieces, Text.Pieces "::" "optional:a::optional:::b" pieces
        ∧ pieces.filterMap (of? · none) =
          [⟨"a", true, none⟩, ⟨"optional", false, none⟩, ⟨":b", false, none⟩])
      ∧ split? "::" ⟨"optional", false, none⟩ = some [⟨"optional", false, none⟩] := by
  have hd : ("::" : Text) ≠ [] := by decide
  have hl : of? "optional:a::optional:::b" none = some ⟨"a::optional:::b", true, none⟩ := by decide
  have hsplit : split? "::" ⟨"a::optional:::b", true, none⟩ =
      some [⟨"a", true, none⟩, ⟨"optional", false, none⟩, ⟨":b", false, none⟩] := by decide
  obtain ⟨-, -, ⟨pieces, hpieces, hparts⟩, hself, -⟩ :=
    (of?_split "optional:a::optional:::b" none hd).2 _ hl
  exact ⟨hd, ⟨pieces, hpieces, (Option.some.inj (hsplit.symm.trans hparts)).symm⟩,
    (hself _ hsplit _ (by simp)).2⟩

end Location

end ConfigLocator
