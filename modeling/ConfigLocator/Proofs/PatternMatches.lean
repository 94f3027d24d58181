import ConfigLocator.Proofs.Expansion

/-!
# What patterns match

What a pattern stands for matches it: a text without a slash, put in the place of the wildcard, makes
a location of the same absolute path, which the store takes for one (`Store.expand_matches`).

That text is the name of the subdirectory, as far as the name can stand there. At the start of a
location a colon would make a scheme of it. Behind a part of a segment the name is in the directory
that the part names, so a separator is needed (`Store.absolutePathOf_partial_ne`), and a backslash is
one.

The law ends at names with backslashes. A name that is found keeps them, and every location reads them
as slashes (`Store.not_alwaysMatches`).
-/

namespace ConfigLocator

theorem Text.mem_join_of_mem {sep piece : Text} {pieces : List Text} {c : Nat}
    (h : piece ∈ pieces) (hc : c ∈ piece) : c ∈ join sep pieces := by
  induction pieces with
  | nil => cases h
  | cons first rest ih =>
      cases rest with
      | nil =>
          obtain rfl := List.mem_singleton.mp h
          exact hc
      | cons other more =>
          have hjoin : join sep (first :: other :: more) =
              first ++ sep ++ join sep (other :: more) := rfl
          rw [hjoin]
          rcases List.mem_cons.mp h with rfl | hrest
          · exact List.mem_append_left _ (List.mem_append_left sep hc)
          · exact List.mem_append_right _ (ih hrest)

/-! ## Closing slashes -/

namespace Path

theorem isDirectoryText_append {q : Text} (hne : q ≠ []) (p : Text) :
    isDirectoryText (p ++ q) = isDirectoryText q := by
  obtain ⟨init, last, rfl⟩ : ∃ init last, q = init ++ [last] :=
    ⟨_, _, (List.dropLast_append_getLast hne).symm⟩
  have hends : ∀ t : Text, isDirectoryText (t ++ [last]) = decide (slash = last) := by
    intro t
    rw [Bool.eq_iff_iff, decide_eq_true_eq, isDirectoryText_iff]
    constructor
    · rintro ⟨s, hs⟩
      exact List.singleton_inj.mp (List.append_inj' hs rfl).2
    · rintro rfl
      exact List.suffix_append t [slash]
  rw [← List.append_assoc, hends, hends]

/-- A closing slash is no part of an absolute path. -/
theorem normalize_append_slash {p : Text} (habsolute : isAbsolute p = true)
    (hopen : isDirectoryText p = false) : normalize (p ++ [slash]) = normalize p := by
  have hne := Path.ne_nil_of_isAbsolute habsolute
  exact normalize_congr ((isAbsolute_append_of_ne_nil hne _).trans habsolute) habsolute
    (rootSlashes_append_slash hne hopen) (pushAll_slash p)

theorem backslash_not_mem_withSlashes (p : Text) : backslash ∉ withSlashes p := by
  intro h
  obtain ⟨c, -, hc⟩ := List.mem_map.mp h
  split at hc
  · cases hc
  · contradiction

theorem withSlashes_withSlashes (p : Text) : withSlashes (withSlashes p) = withSlashes p :=
  withSlashes_of_not_mem (backslash_not_mem_withSlashes p)

/-! ## Names and characters -/

theorem IsName.append {g s : Text} (hg : IsName g) (hslash : slash ∉ s) (hbackslash : backslash ∉ s) :
    IsName (g ++ s) where
  isSegment := by
    obtain ⟨⟨hne, hcurrent, hgslash⟩, hparent⟩ := hg.isSegment
    -- Besides the empty text only `.` and `..` begin `..`, and a name is none of them.
    have hother : ∀ t : Text, t <+: parent → g ++ s ≠ t := by
      rintro t ht rfl
      have hmem : g ∈ parent.inits := (List.mem_inits g parent).mpr ((List.prefix_append g s).trans ht)
      have hinits : parent.inits = [[], current, parent] := rfl
      simp [hinits, hne, hcurrent, hparent] at hmem
    exact ⟨⟨List.append_ne_nil_of_left_ne_nil hne s, hother current (List.prefix_append current [dot]),
      List.not_mem_append hgslash hslash⟩, hother parent (List.prefix_refl parent)⟩
  no_backslash := List.not_mem_append hg.no_backslash hbackslash

theorem mem_pushSegment {rooted : Bool} {stack : List Text} {segment s : Text}
    (h : s ∈ pushSegment rooted stack segment) : s ∈ stack ∨ s = segment ∨ s = parent := by
  unfold pushSegment at h
  split at h
  · exact Or.inl h
  · split at h
    · cases stack with
      | nil =>
          cases rooted with
          | true => exact Or.inl h
          | false => exact Or.inr (Or.inr (List.mem_singleton.mp h))
      | cons top below =>
          dsimp only at h
          split at h
          · exact (List.mem_cons.mp h).symm.imp_right Or.inr
          · exact Or.inl (List.mem_cons_of_mem top h)
    · exact (List.mem_cons.mp h).symm.imp_right Or.inl

theorem mem_foldl_pushSegment {rooted : Bool} {stack segments : List Text} {s : Text}
    (h : s ∈ segments.foldl (pushSegment rooted) stack) : s ∈ stack ∨ s ∈ segments ∨ s = parent := by
  induction segments generalizing stack with
  | nil => exact Or.inl h
  | cons segment rest ih =>
      rcases ih h with hpushed | hrest | hparent
      · rcases mem_pushSegment hpushed with hstack | rfl | hparent
        · exact Or.inl hstack
        · exact Or.inr (Or.inl List.mem_cons_self)
        · exact Or.inr (Or.inr hparent)
      · exact Or.inr (Or.inl (List.mem_cons_of_mem segment hrest))
      · exact Or.inr (Or.inr hparent)

theorem mem_normalize {p : Text} {c : Nat} (h : c ∈ normalize p) : c ∈ p ∨ c = slash ∨ c = dot := by
  unfold normalize at h
  dsimp only at h
  split at h
  · exact Or.inr (Or.inr (List.mem_singleton.mp h))
  · rcases List.mem_append.mp h with hroot | hbody
    · exact Or.inr (Or.inl (List.eq_of_mem_replicate hroot))
    · rcases Text.mem_join hbody with hslash | ⟨s, hs, hc⟩
      · exact Or.inr (Or.inl (List.mem_singleton.mp hslash))
      · rcases mem_foldl_pushSegment (List.mem_reverse.mp hs) with hnil | hsplit | rfl
        · cases hnil
        · left
          rw [← Text.join_split slash p]
          exact Text.mem_join_of_mem hsplit hc
        · exact Or.inr (Or.inr ((List.mem_pair.mp hc).elim id id))

theorem mem_append {p q : Text} {c : Nat} (h : c ∈ append p q) : c ∈ p ∨ c ∈ q ∨ c = slash := by
  unfold append at h
  split at h
  · exact Or.inr (Or.inl h)
  · split at h
    · exact (List.mem_append.mp h).imp_right Or.inl
    · rcases List.mem_append.mp h with hclosed | hq
      · exact (List.mem_append.mp hclosed).imp_right fun hslash => Or.inr (List.mem_singleton.mp hslash)
      · exact Or.inr (Or.inl hq)

theorem mem_append_of_mem {q : Text} {c : Nat} (h : c ∈ q) (p : Text) : c ∈ append p q := by
  unfold append
  split
  · exact h
  · split <;> exact List.mem_append_right _ h

end Path

namespace Host

theorem absolutePath_append_slash (host : Host) {p : Text} (habsolute : Path.isAbsolute p = true)
    (hopen : Path.isDirectoryText p = false) :
    host.absolutePath (p ++ [slash]) = host.absolutePath p := by
  have hne := Path.ne_nil_of_isAbsolute habsolute
  show Path.normalize (Path.append _ (p ++ [slash])) = Path.normalize (Path.append _ p)
  rw [Path.append, if_pos ((Path.isAbsolute_append_of_ne_nil hne _).trans habsolute), Path.append,
    if_pos habsolute]
  exact Path.normalize_append_slash habsolute hopen

end Host

namespace Store

variable {store : Store} {host : Host} {kind : PatternKind} {d f name : Text}

/-! ## Absolute paths of locations -/

theorem absolutePathOf_eq (store : Store) (host : Host) (p : Text) :
    store.absolutePathOf host p =
      Path.normalize (Path.append host.workingDirectory.toPath (store.anchor (Path.withSlashes p))) :=
  absolutePath_anchor_clean store host p

/-- Backslashes in a location are slashes. -/
theorem absolutePathOf_withSlashes (store : Store) (host : Host) (p : Text) :
    store.absolutePathOf host (Path.withSlashes p) = store.absolutePathOf host p := by
  rw [absolutePathOf_eq, absolutePathOf_eq, Path.withSlashes_withSlashes]

theorem absolutePathOf_congr {p q : Text} (h : Path.withSlashes p = Path.withSlashes q) :
    store.absolutePathOf host p = store.absolutePathOf host q := by
  rw [absolutePathOf_eq, absolutePathOf_eq, h]

theorem absolutePathOf_append_slash {p : Text} (hne : p ≠ [])
    (hopen : Path.isDirectoryText (Path.withSlashes p) = false) :
    store.absolutePathOf host (p ++ [slash]) = store.absolutePathOf host p := by
  have hq : Path.withSlashes p ≠ [] := by simpa [Path.withSlashes, Text.replace] using hne
  rw [absolutePathOf_eq, absolutePathOf_eq, Path.withSlashes_concat (Or.inl rfl)]
  generalize Path.withSlashes p = q at *
  have happend : Path.isAbsolute (q ++ [slash]) = Path.isAbsolute q :=
    Path.isAbsolute_append_of_ne_nil hq _
  cases habsolute : Path.isAbsolute q with
  | true =>
      rw [append_anchor_of_isAbsolute habsolute, append_anchor_of_isAbsolute (happend.trans habsolute)]
      exact Path.normalize_append_slash habsolute hopen
  | false =>
      obtain ⟨base, hbase, hanchor⟩ := store.exists_anchor host
      have hassoc : base ++ slash :: (q ++ [slash]) = base ++ slash :: q ++ [slash] := by simp
      rw [hanchor q habsolute, hanchor _ (happend.trans habsolute), hassoc]
      refine Path.normalize_append_slash ?_ ?_
      · rw [show base ++ slash :: q = base ++ [slash] ++ q by simp,
          Path.isAbsolute_append habsolute, hbase]
      · rw [show base ++ slash :: q = base ++ [slash] ++ q by simp,
          Path.isDirectoryText_append hq, hopen]

theorem absolutePathOf_rootOf (store : Store) (host : Host) (d : Text) :
    store.absolutePathOf host (rootOf d) = store.absolutePathOf host d := by
  unfold rootOf
  split
  · rename_i hnil
    subst hnil
    have hhere : Path.withSlashes "./" = "./" := by decide
    obtain ⟨base, hbase, hanchor⟩ := store.exists_anchor host
    rw [absolutePathOf_eq, absolutePathOf_eq, hhere]
    show Path.normalize (Path.append _ (store.anchor "./")) =
      Path.normalize (Path.append _ (store.anchor []))
    rw [hanchor _ rfl, hanchor _ rfl]
    have hassoc : ∀ c : Text, base ++ slash :: c = base ++ [slash] ++ c := by simp
    refine Path.normalize_congr ?_ hbase ?_ ?_
    · rw [hassoc, Path.isAbsolute_append rfl, hbase]
    · rw [hassoc, Path.rootSlashes_append rfl]
    · rw [Path.pushAll_append_slash, Path.pushAll_append_slash]
      rfl
  · rfl

/-- A name behind a directory is a name behind its absolute path. -/
theorem absolutePathOf_entry (hd : (Path.withSlashes d).IsDirectoryPart) (hname : Path.IsName name) :
    store.absolutePathOf host (d ++ name) = Path.append (store.absolutePathOf host d) name := by
  have hsame : Path.withSlashes (d ++ name) = Path.withSlashes (Path.withSlashes d ++ name) := by
    rw [Path.withSlashes_append, Path.withSlashes_append, Path.withSlashes_withSlashes]
  rw [absolutePathOf_congr hsame, ← absolutePathOf_withSlashes store host d]
  exact absolutePath_entry store host hd hname

/-! ## Filling in -/

/-- The text with another one in the place of its wildcards. -/
def fill (s t : Text) : Text := t.flatMap fun c => if c = wildcard then s else [c]

theorem fill_of_not_mem {t : Text} (h : wildcard ∉ t) (s : Text) : fill s t = t := by
  have hkept : ∀ c ∈ t, (if c = wildcard then s else [c]) = [c] := by
    intro c hc
    rw [if_neg]
    rintro rfl
    exact h hc
  exact (List.flatMap_congr hkept).trans (List.flatMap_singleton' t)

theorem fill_pattern (h : IsPatternOf kind d f) (s : Text) :
    fill s (d ++ wildcardSegment ++ f) = d ++ s ++ [slash] ++ f := by
  have happend : ∀ t u : Text, fill s (t ++ u) = fill s t ++ fill s u := fun _ _ => List.flatMap_append
  have hsegment : fill s wildcardSegment = s ++ [slash] := rfl
  rw [happend, happend, fill_of_not_mem h.no_wildcard, fill_of_not_mem h.no_wildcard_behind, hsegment,
    ← List.append_assoc]

/-- What is needed between the text before the wildcard and a name. A colon is kept from ending a
scheme, and behind a part of a segment comes a slash, as a backslash. -/
def opening (d name : Text) : Text :=
  if d = [] then if colon ∈ name then [Path.dot, backslash] else []
  else if Path.isDirectoryText (Path.withSlashes d) then []
  else [backslash]

/-- What stands for the wildcard where the subdirectory of a name is found. -/
def filling (d name : Text) : Text := opening d name ++ name

theorem not_mem_opening {c : Nat} (hdot : c ≠ Path.dot) (hbackslash : c ≠ backslash) (d name : Text) :
    c ∉ opening d name := by
  unfold opening
  split
  · split <;> simp [hdot, hbackslash]
  · split <;> simp [hbackslash]

theorem no_slash_filling (d : Text) (h : slash ∉ name) : slash ∉ filling d name :=
  List.not_mem_append (not_mem_opening (by decide) (by decide) d name) h

/-- The name stands in the directory before the wildcard. -/
theorem absolutePathOf_opening (store : Store) (host : Host) (d name : Text) :
    (Path.withSlashes (d ++ opening d name)).IsDirectoryPart
      ∧ store.absolutePathOf host (d ++ opening d name) = store.absolutePathOf host (rootOf d) := by
  unfold opening
  split
  · rename_i hnil
    subst hnil
    split
    · have hhere : Path.withSlashes [Path.dot, backslash] = Path.withSlashes "./" := by decide
      exact ⟨Or.inr ⟨Path.current, by decide⟩, absolutePathOf_congr hhere⟩
    · exact ⟨Or.inl rfl, (absolutePathOf_rootOf store host []).symm⟩
  · rename_i hne
    rw [absolutePathOf_rootOf]
    split
    · rename_i hd
      obtain ⟨s, hs⟩ := Path.isDirectoryText_iff.mp hd
      rw [List.append_nil]
      exact ⟨Or.inr ⟨s, hs.symm⟩, rfl⟩
    · rename_i hopen
      have hclosed := Path.withSlashes_concat (Or.inr rfl) d
      have hsame := hclosed.trans (Path.withSlashes_concat (Or.inl rfl) d).symm
      refine ⟨Or.inr ⟨_, hclosed⟩, (absolutePathOf_congr hsame).trans ?_⟩
      exact absolutePathOf_append_slash hne (Bool.not_eq_true _ ▸ hopen)

theorem absolutePathOf_filling (store : Store) (host : Host) (d : Text) (hname : Path.IsName name) :
    store.absolutePathOf host (d ++ filling d name) =
      Path.append (store.absolutePathOf host (rootOf d)) name := by
  obtain ⟨hdirectory, hpath⟩ := absolutePathOf_opening store host d name
  rw [filling, ← List.append_assoc, absolutePathOf_entry hdirectory hname, hpath]

/-- A slash ends what can be read as a scheme, in either form. -/
theorem SchemeLess.append {p more : Text} {c : Nat} (h : SchemeLess p) (hc : c = slash ∨ c = backslash)
    (hin : c ∈ p ∨ ∃ rest, more = c :: rest) : SchemeLess (p ++ more) := by
  have hstarts : ∀ head : Text, c ∉ head → Text.startsWith p head = false →
      Text.startsWith (p ++ more) head = false := by
    intro head hhead hp
    rcases hin with hin | ⟨rest, rfl⟩
    · rw [Text.startsWith_append hin hhead, hp]
    · rw [← Bool.not_eq_true, Text.startsWith_iff] at hp ⊢
      exact mt (fun hpre => Text.prefix_of_prefix_append_cons hpre hhead) hp
  have hpart : isSchemePart c = false := by rcases hc with rfl | rfl <;> decide
  refine ⟨hstarts _ ?_ h.no_file, hstarts _ ?_ h.no_package, ?_⟩
  · rcases hc with rfl | rfl <;> decide
  · rcases hc with rfl | rfl <;> decide
  · refine h.no_other.imp (fun hscheme => ?_) fun hdrive => hasDrive_append hdrive more
    rw [← Bool.not_eq_true] at hscheme ⊢
    intro hmore
    refine hscheme ?_
    rcases hin with hin | ⟨rest, rfl⟩
    · exact hasScheme_append hin hpart hmore
    · obtain ⟨scheme, body, hs, heq⟩ := exists_of_hasScheme hmore
      have hne : c ≠ colon := by rcases hc with rfl | rfl <;> decide
      have hpre : scheme ++ [colon] <+: p ++ c :: rest := ⟨body, by rw [heq]; simp⟩
      have hcolon : scheme ++ [colon] <+: p :=
        Text.prefix_of_prefix_append_cons hpre (by simp [hs.not_mem hpart, hne])
      have hmem : colon ∈ p := hcolon.subset (List.mem_append_right scheme List.mem_cons_self)
      exact hasScheme_append hmem (by decide) hmore

theorem schemeLess_of_no_colon (h : colon ∉ name) : SchemeLess name := by
  have hstarts : ∀ head : Text, colon ∈ head → Text.startsWith name head = false := by
    intro head hhead
    rw [← Bool.not_eq_true, Text.startsWith_iff]
    exact fun hpre => h (hpre.subset hhead)
  refine ⟨hstarts _ (by decide), hstarts _ (by decide), Or.inl ?_⟩
  rw [← Bool.not_eq_true]
  intro hscheme
  obtain ⟨scheme, body, -, rfl⟩ := exists_of_hasScheme hscheme
  exact h (by simp)

/-- What is filled in makes no scheme. -/
theorem SchemeLess.filling (h : SchemeLess d) (name more : Text) :
    SchemeLess (d ++ filling d name ++ slash :: more) := by
  rw [Store.filling, opening]
  split
  · rename_i hnil
    subst hnil
    split
    · have hhere : SchemeLess [Path.dot, backslash] := ⟨rfl, rfl, Or.inl rfl⟩
      have hin : SchemeLess ([Path.dot, backslash] ++ (name ++ slash :: more)) :=
        hhere.append (Or.inr rfl) (Or.inl (by decide))
      simpa using hin
    · rename_i hcolon
      exact (schemeLess_of_no_colon hcolon).append (Or.inl rfl) (Or.inr ⟨more, rfl⟩)
  · split
    · rename_i hd
      obtain ⟨c, hmem, hc⟩ : ∃ c ∈ d, (if c = backslash then slash else c) = slash :=
        List.mem_map.mp (Text.mem_of_endsWith hd)
      have hseparator : c = slash ∨ c = backslash := by
        split at hc
        · exact Or.inr ‹_›
        · exact Or.inl hc
      have hin : SchemeLess (d ++ (name ++ slash :: more)) := h.append hseparator (Or.inl hmem)
      simpa using hin
    · have hin : SchemeLess (d ++ backslash :: (name ++ slash :: more)) :=
        h.append (Or.inr rfl) (Or.inr ⟨_, rfl⟩)
      simpa using hin

/-! ## What is found -/

theorem supported_of_handle {x : Handle} (h : store.handle d = .ok x) : isSupported d = true := by
  unfold handle at h
  split at h
  · cases h
  · split at h
    · cases h
    · rename_i hsupported
      simpa using hsupported

/-- What a pattern with `f` behind its wildcard stands for in the subdirectory of a name. -/
def found (kind : PatternKind) (root name f : Text) : Handle :=
  match kind with
  | .directories => .file (Path.append root name ++ [slash])
  | .files => .file (Path.append (Path.append root name) f)

/-- What is found has the absolute path of the location that is filled in. -/
theorem canonical_found (store : Store) (host : Host) (hpattern : IsPatternOf kind d f)
    (hname : Path.IsName name) (hf : kind = .files → Path.IsName f) :
    (found kind (store.absolutePathOf host (rootOf d)) name f).canonical host =
      .file (store.absolutePathOf host (fill (filling d name) (d ++ wildcardSegment ++ f))) := by
  have hbefore : d ++ filling d name = d ++ opening d name ++ name := (List.append_assoc _ _ _).symm
  have hpath := absolutePathOf_filling store host d hname
  have hne : d ++ filling d name ≠ [] := by
    rw [hbefore]
    exact List.append_ne_nil_of_right_ne_nil _ hname.isSegment.1.1
  have hopen : Path.isDirectoryText (Path.withSlashes (d ++ filling d name)) = false := by
    rw [hbefore, Path.withSlashes_append, Path.withSlashes_of_not_mem hname.no_backslash]
    exact Path.not_isDirectoryText_append hname.isSegment.1.1 hname.isSegment.1.2.2 _
  have hsub : store.absolutePathOf host (d ++ filling d name ++ [slash]) = _ :=
    (absolutePathOf_append_slash hne hopen).trans hpath
  rw [fill_pattern hpattern]
  cases kind with
  | directories =>
      obtain rfl := hpattern.ends rfl
      have hclosed : Path.isDirectoryText (store.absolutePathOf host (d ++ filling d name)) = false := by
        rw [hpath, Path.append_of_relative (Path.isAbsolute_of_not_mem hname.isSegment.1.2.2)]
        exact Path.not_isDirectoryText_append hname.isSegment.1.1 hname.isSegment.1.2.2 _
      rw [List.append_nil, hsub, ← hpath]
      show Handle.file (host.absolutePath (Path.append _ name ++ [slash])) = _
      rw [← hpath, absolutePathOf, host.absolutePath_append_slash (host.isAbsolute_absolutePath _) hclosed,
        host.absolutePath_absolutePath]
  | files =>
      have hin : (Path.withSlashes (d ++ filling d name ++ [slash])).IsDirectoryPart :=
        Or.inr ⟨_, Path.withSlashes_concat (Or.inl rfl) _⟩
      have hentry : store.absolutePathOf host (d ++ filling d name ++ [slash] ++ f) = _ :=
        absolutePathOf_entry hin (hf rfl)
      rw [hsub] at hentry
      show Handle.file (host.absolutePath (Path.append (Path.append _ name) f)) = _
      rw [← hentry, absolutePathOf, host.absolutePath_absolutePath]

theorem no_package_of_checkPattern
    (hcheck : checkPattern kind (d ++ wildcardSegment ++ f) = .ok ()) :
    Text.startsWith d packageScheme = false :=
  (startsWith_pattern (by decide) d f).symm.trans (checkPattern_eq_ok_iff_exists.mp hcheck).1

/-- What a pattern stands for is selected from the subdirectories. -/
theorem exists_select (store : Store) (host : Host) (hpattern : IsPatternOf kind d f)
    (hcheck : checkPattern kind (d ++ wildcardSegment ++ f) = .ok ()) :
    ∃ select : List Text → List Handle, select [] = []
      ∧ store.expand host (d ++ wildcardSegment ++ f) kind =
        (store.wildcardDirectories host (d ++ wildcardSegment)).map select := by
  have hdirectory := isPatternDirectory_append (no_package_of_checkPattern hcheck) hpattern.no_wildcard
  cases kind with
  | directories =>
      obtain rfl := hpattern.ends rfl
      rw [List.append_nil]
      exact ⟨_, rfl, expand_directories hdirectory⟩
  | files => exact ⟨_, rfl, hdirectory.expand store host hpattern.no_slash hcheck⟩

section Listed

variable (hpattern : IsPatternOf kind d f) {handles : List Handle}
  (h : store.expand host (d ++ wildcardSegment ++ f) kind = .ok handles)

include hpattern h

/-- What is found depends on the subdirectories that are listed, and without any it is nothing. -/
theorem exists_wildcardDirectories :
    Text.startsWith d packageScheme = false
      ∧ ∃ subs, store.wildcardDirectories host (d ++ wildcardSegment) = .ok subs
        ∧ (subs = [] → handles = []) := by
  have hcheck := checkPattern_of_expand h
  obtain ⟨select, hnone, hselect⟩ := exists_select store host hpattern hcheck
  refine ⟨no_package_of_checkPattern hcheck, ?_⟩
  rw [hselect] at h
  cases hsubs : store.wildcardDirectories host (d ++ wildcardSegment) with
  | error fault =>
      rw [hsubs] at h
      cases h
  | ok subs =>
      rw [hsubs] at h
      refine ⟨subs, rfl, ?_⟩
      rintro rfl
      exact (Except.ok.inj h).symm.trans hnone

theorem schemeLess_of_expand
    (hfile : Text.startsWith (d ++ wildcardSegment ++ f) fileScheme = false) : SchemeLess d := by
  obtain ⟨hpackage, subs, hsubs, -⟩ := exists_wildcardDirectories hpattern h
  have hfile : Text.startsWith d fileScheme = false :=
    (startsWith_pattern (by decide) d f).symm.trans hfile
  obtain ⟨root, hroot, -⟩ := subdirectories_eq_ok_iff.mp hsubs
  rw [patternRoot_eq hfile hpattern.no_wildcard] at hroot
  refine ⟨hfile, hpackage, ?_⟩
  by_cases hnil : d = []
  · subst hnil
    exact Or.inl rfl
  · rw [rootOf, if_neg hnil] at hroot
    have hsupported : isSupported d = true := supported_of_handle hroot
    simpa [isSupported, hfile, hpackage] using hsupported

/-- Whatever is found is found in a subdirectory of the directory before the wildcard. -/
theorem mem_expand (htree : host.tree.WellFormed) (hanchored : host.Anchored)
    (hscheme : SchemeLess d) {x : Handle} (hx : x ∈ handles) :
    ∃ name, host.HasSubdirectory (Place.ofPath (store.absolutePathOf host (rootOf d))) name
      ∧ (kind = .files → Path.IsSegment f)
      ∧ x = found kind (store.absolutePathOf host (rootOf d)) name f := by
  obtain ⟨-, subs, hsubs, hnone⟩ := exists_wildcardDirectories hpattern h
  by_cases hleads : host.lookup (store.pathOf (rootOf d)) = .ok .directory
  · have hfiles : IsPatternOf .files d f :=
      ⟨hpattern.no_wildcard, hpattern.no_wildcard_behind, hpattern.no_slash, nofun⟩
    have hexpands := expands_of_lookup htree hanchored hscheme hfiles hleads
    cases kind with
    | directories =>
        obtain rfl := hpattern.ends rfl
        rw [List.append_nil, hexpands.directories] at h
        obtain rfl := Except.ok.inj h
        obtain ⟨name, hname, rfl⟩ := List.mem_map.mp hx
        exact ⟨name, (hexpands.lists.mem_iff name).mp hname, nofun, rfl⟩
    | files =>
        rw [hexpands.files] at h
        obtain rfl := Except.ok.inj h
        obtain ⟨name, hname, rfl⟩ := List.mem_map.mp hx
        obtain ⟨hlisted, hholds⟩ := List.mem_filter.mp hname
        obtain ⟨content, hentry⟩ := holdsFile_iff.mp hholds
        exact ⟨name, (hexpands.lists.mem_iff name).mp hlisted,
          fun _ => (htree.segments_of hentry f (by simp)).1, rfl⟩
  · have hempty := wildcardDirectories_eq_nil hscheme hpattern.no_wildcard hleads
    obtain rfl := hnone (Except.ok.inj (hsubs.symm.trans hempty))
    cases hx

end Listed

/-- The text, put in the place of the wildcard, makes a location of the absolute path. The store takes
it for one unless there is another wildcard in the text. -/
structure IsMatch (store : Store) (host : Host) (t s : Text) (x : Handle) : Prop where
  no_slash : slash ∉ s
  same : x.canonical host = .file (store.absolutePathOf host (fill s t))
  accepted : wildcard ∉ s → store.handle (fill s t) = .ok (.file (store.pathOf (fill s t)))

/-- Whatever a pattern stands for matches it, as long as no name has a backslash. -/
theorem expand_matches (store : Store) {host : Host} (htree : host.tree.WellFormed)
    (hanchored : host.Anchored) {kind : PatternKind} {t : Text} {handles : List Handle}
    (hfile : Text.startsWith t fileScheme = false) (h : store.expand host t kind = .ok handles) :
    ∃ d f, IsPatternOf kind d f ∧ t = d ++ wildcardSegment ++ f ∧ ∀ x ∈ handles, ∃ name,
      host.HasSubdirectory (Place.ofPath (store.absolutePathOf host (rootOf d))) name
        ∧ x = found kind (store.absolutePathOf host (rootOf d)) name f
        ∧ (backslash ∉ name → backslash ∉ f → store.IsMatch host t (filling d name) x) := by
  obtain ⟨-, d, f, hpattern, rfl⟩ := checkPattern_eq_ok_iff_exists.mp (checkPattern_of_expand h)
  have hscheme := schemeLess_of_expand hpattern h hfile
  refine ⟨d, f, hpattern, rfl, fun x hx => ?_⟩
  obtain ⟨name, hname, hf, rfl⟩ := mem_expand hpattern h htree hanchored hscheme hx
  have hsegment : Path.IsSegment name := (htree.segments_of hname.2 name (by simp)).1
  refine ⟨name, hname, rfl, fun hplain hplain' => ⟨no_slash_filling d hsegment.1.2.2, ?_, ?_⟩⟩
  · exact canonical_found store host hpattern ⟨hsegment, hplain⟩ fun hkind => ⟨hf hkind, hplain'⟩
  · intro hwildcard
    have hall : wildcard ∉ d ++ filling d name ++ slash :: f := by
      refine List.not_mem_append (List.not_mem_append hpattern.no_wildcard hwildcard) ?_
      exact List.not_mem_cons_of_ne_of_not_mem (by decide) hpattern.no_wildcard_behind
    rw [fill_pattern hpattern, List.append_assoc _ [slash], List.singleton_append]
    exact (hscheme.filling name f).handle_eq hall store

/-- A location that has some text without a slash in the place of the wildcard names the same. -/
def Matches (store : Store) (host : Host) (t : Text) (x : Handle) : Prop :=
  ∃ s y, slash ∉ s ∧ store.handle (fill s t) = .ok y ∧ x.canonical host = y.canonical host

theorem expand_matches_config :
    Matches ⟨none⟩ StandardResolver.patternHost "config/*/" (.file "/ws/config/a/") := by
  have hexpand : Store.expand ⟨none⟩ StandardResolver.patternHost "config/*/" .directories =
      .ok [.file "/ws/config/a/", .file "/ws/config/b/"] := rfl
  obtain ⟨d, f, hpattern, -, hall⟩ := expand_matches ⟨none⟩ StandardResolver.wellFormed_patternHost
    StandardResolver.anchored_patternHost rfl hexpand
  obtain ⟨name, -, hfound, hmatches⟩ := hall _ List.mem_cons_self
  obtain rfl := hpattern.ends rfl
  have hmem : ∀ c ∈ name, c ∈ ("/ws/config/a/" : Text) := by
    intro c hc
    rw [Handle.file.inj hfound]
    exact List.mem_append_left _ (Path.mem_append_of_mem hc _)
  have hbackslash : backslash ∉ name := fun h => absurd (hmem _ h) (by decide)
  have hwildcard : wildcard ∉ filling d name := List.not_mem_append
    (not_mem_opening (by decide) (by decide) d name) fun h => absurd (hmem _ h) (by decide)
  obtain ⟨hslash, hsame, haccepted⟩ := hmatches hbackslash (by simp)
  exact ⟨_, _, hslash, haccepted hwildcard, hsame⟩

/-! ## Separators -/

/-- Where the wildcard is part of a segment, only a text with a separator leads to a subdirectory. -/
theorem absolutePathOf_partial_ne (store : Store) (host : Host)
    (hd : (Path.withSlashes d).IsDirectoryPart) {g s : Text} (hg : Path.IsName g)
    (hname : slash ∉ name) (hslash : slash ∉ s) (hbackslash : backslash ∉ s) :
    store.absolutePathOf host (d ++ g ++ s) ≠
      Path.append (store.absolutePathOf host (d ++ g)) name := by
  have hgs : Path.IsName (g ++ s) := hg.append hslash hbackslash
  have hsub : Path.append (store.absolutePathOf host d) g =
      Path.append (store.absolutePathOf host d) [] ++ g :=
    Path.append_of_relative (Path.isAbsolute_of_not_mem hg.isSegment.1.2.2) _
  have hopen : Path.isDirectoryText (Path.append (store.absolutePathOf host d) [] ++ g) = false :=
    Path.not_isDirectoryText_append hg.isSegment.1.1 hg.isSegment.1.2.2 _
  rw [List.append_assoc, absolutePathOf_entry hd hgs, absolutePathOf_entry hd hg, hsub,
    Path.append_of_relative (Path.isAbsolute_of_not_mem hgs.isSegment.1.2.2)]
  generalize Path.append (store.absolutePathOf host d) [] = root at *
  have hne : root ++ g ≠ [] := List.append_ne_nil_of_right_ne_nil root hg.isSegment.1.1
  have hends : Text.endsWith (root ++ g) [slash] = false := hopen
  rw [Path.append, if_neg (by simp [Path.isAbsolute_of_not_mem hname]), if_neg (by simp [hends, hne]),
    ← List.append_assoc, List.append_assoc _ [slash]]
  intro heq
  obtain rfl := List.append_cancel_left heq
  exact hslash List.mem_cons_self

/-- Absolute paths of locations have slashes only, if the directory that they start at has. -/
theorem backslash_not_mem_absolutePathOf (hworking : backslash ∉ host.workingDirectory.toPath)
    (hbase : ∀ base ∈ store.baseDirectory, backslash ∉ base) (p : Text) :
    backslash ∉ store.absolutePathOf host p := by
  have hplain := Path.backslash_not_mem_withSlashes p
  have hanchor : backslash ∉ store.anchor (Path.withSlashes p) := by
    unfold anchor
    split
    · rename_i base hsome
      split
      · exact hplain
      · intro h
        rcases Path.mem_append h with h | h | h
        · exact hbase base hsome h
        · exact hplain h
        · cases h
    · exact hplain
  rw [absolutePathOf_eq]
  intro h
  rcases Path.mem_normalize h with h | h | h
  · rcases Path.mem_append h with h | h | h
    · exact hworking h
    · exact hanchor h
    · cases h
  · cases h
  · cases h

/-- What has a backslash in its absolute path is named by no location. -/
theorem not_matches_of_backslash_mem (hworking : backslash ∉ host.workingDirectory.toPath)
    (hbase : ∀ base ∈ store.baseDirectory, backslash ∉ base) {path t : Text}
    (h : backslash ∈ host.absolutePath path) : ¬Matches store host t (.file path) := by
  rintro ⟨s, y, -, hhandle, hsame⟩
  cases y with
  | package name inside => cases hsame
  | file named =>
      obtain ⟨-, -, -, rfl⟩ := of_handle_eq_file hhandle
      rw [show host.absolutePath path = _ from Handle.file.inj hsame] at h
      exact backslash_not_mem_absolutePathOf hworking hbase _ h

/-- Everything that patterns of a kind stand for matches them. -/
def AlwaysMatches (kind : PatternKind) : Prop :=
  ∀ (store : Store) (host : Host) (t : Text) (handles : List Handle), host.tree.WellFormed →
    host.Anchored → Text.startsWith t fileScheme = false → store.expand host t kind = .ok handles →
    ∀ x ∈ handles, Matches store host t x

/-- Names of a directory and of a file with a backslash in them. -/
def backslashHost : Host where
  tree := ⟨[(["ws"], .directory), (["ws", "config"], .directory), (["ws", "config", "a\\b"], .directory),
    (["ws", "config", "x"], .directory), (["ws", "config", "x", "a\\b"], .file [])]⟩
  workingDirectory := ["ws"]
  environment := []

theorem wellFormed_backslashHost : backslashHost.tree.WellFormed where
  ne_root := by decide
  segments := by decide
  parents := by decide
  distinct := by decide
  reachable := by decide

theorem anchored_backslashHost : backslashHost.Anchored := by
  unfold Host.Anchored
  decide

theorem not_alwaysMatches : ¬AlwaysMatches .directories ∧ ¬AlwaysMatches .files := by
  have hworking : backslash ∉ backslashHost.workingDirectory.toPath := by decide
  have hbase : ∀ base ∈ (⟨none⟩ : Store).baseDirectory, backslash ∉ base := nofun
  constructor
  · intro hall
    have hexpand : Store.expand ⟨none⟩ backslashHost "config/*/" .directories =
        .ok [.file "/ws/config/a\\b/", .file "/ws/config/x/"] := rfl
    exact not_matches_of_backslash_mem hworking hbase (by decide)
      (hall _ _ _ _ wellFormed_backslashHost anchored_backslashHost rfl hexpand _ List.mem_cons_self)
  · intro hall
    have hexpand : Store.expand ⟨none⟩ backslashHost "config/*/a\\b" .files =
        .ok [.file "/ws/config/x/a\\b"] := rfl
    exact not_matches_of_backslash_mem hworking hbase (by decide)
      (hall _ _ _ _ wellFormed_backslashHost anchored_backslashHost rfl hexpand _ List.mem_cons_self)

end Store

end ConfigLocator
