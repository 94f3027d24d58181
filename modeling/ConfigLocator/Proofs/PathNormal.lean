import Mathlib.Data.List.Basic
import ConfigLocator.Proofs.Scheme

/-!
# Normal paths

`Path.normalize` pushes the segments of a path onto a stack and writes the stack down again. What a
stack holds is proper (`Path.Proper`), so pushing what was written down comes to pushing the segments
themselves (`Path.foldl_normalSegments`), and it makes no difference to an absolute path whether it
was normalized on the way (`Store.absolutePath_anchor_clean`).

A segment that names an entry (`Path.IsSegment`) always ends up on top, and so stands behind the
normal form of whatever stood before it (`Path.normalize_append_segment`): an entry in a directory
has the absolute path of the directory with its name behind it (`Store.absolutePath_entry`).
-/

namespace ConfigLocator

/-! ## Splitting and joining -/

namespace Text

variable {sep : Nat} {s : Text}

theorem consFirst_append (c : Nat) {pieces : List Text} (h : pieces ≠ []) (more : List Text) :
    consFirst c (pieces ++ more) = consFirst c pieces ++ more := by
  cases pieces with
  | nil => exact absurd rfl h
  | cons piece pieces => rfl

theorem split_append_sep (sep : Nat) (s t : Text) :
    split sep (s ++ sep :: t) = split sep s ++ split sep t := by
  induction s with
  | nil => simp [split]
  | cons c rest ih =>
      rw [List.cons_append, split, split, ih]
      split
      · rfl
      · exact consFirst_append c (split_ne_nil sep rest) _

theorem split_of_not_mem (h : sep ∉ s) : split sep s = [s] := by
  induction s with
  | nil => rfl
  | cons c rest ih =>
      obtain ⟨hc, hrest⟩ := not_or.mp (mt List.mem_cons.mpr h)
      rw [split, if_neg (Ne.symm hc), ih hrest]
      rfl

theorem not_mem_of_mem_split {piece : Text} (h : piece ∈ split sep s) : sep ∉ piece := by
  induction s generalizing piece with
  | nil =>
      rw [split, List.mem_singleton] at h
      rw [h]
      exact List.not_mem_nil
  | cons c rest ih =>
      rw [split] at h
      split at h
      · rcases List.mem_cons.mp h with rfl | h
        · exact List.not_mem_nil
        · exact ih h
      · rename_i hc
        obtain ⟨first, pieces, hsplit⟩ := List.exists_cons_of_ne_nil (split_ne_nil sep rest)
        rw [hsplit, consFirst] at h
        rw [hsplit] at ih
        rcases List.mem_cons.mp h with rfl | h
        · rw [List.mem_cons, not_or]
          exact ⟨Ne.symm hc, ih List.mem_cons_self⟩
        · exact ih (List.mem_cons_of_mem _ h)

theorem split_join {pieces : List Text} (hne : pieces ≠ []) (h : ∀ piece ∈ pieces, sep ∉ piece) :
    split sep (join [sep] pieces) = pieces := by
  induction pieces with
  | nil => exact absurd rfl hne
  | cons piece rest ih =>
      obtain ⟨hpiece, hrest⟩ := List.forall_mem_cons.mp h
      cases rest with
      | nil => exact split_of_not_mem hpiece
      | cons other rest =>
          rw [join, List.append_assoc, List.singleton_append, split_append_sep,
            split_of_not_mem hpiece, ih (by simp) hrest]
          · rfl
          · simp

theorem join_append_singleton {pieces : List Text} (hne : pieces ≠ []) (last : Text) :
    join [sep] (pieces ++ [last]) = join [sep] pieces ++ sep :: last := by
  induction pieces with
  | nil => exact absurd rfl hne
  | cons piece rest ih =>
      cases rest with
      | nil => simp [join]
      | cons other rest =>
          have hjoin : ∀ more : List Text, more ≠ [] →
              join [sep] (piece :: more) = piece ++ [sep] ++ join [sep] more := by
            intro more hmore
            cases more with
            | nil => exact absurd rfl hmore
            | cons first more => rfl
          rw [List.cons_append, hjoin _ (by simp), hjoin _ (by simp), ih (by simp)]
          simp

/-! ## The last piece -/

theorem not_mem_afterLast (c : Nat) (t : Text) : c ∉ afterLast c t := by
  intro h
  have htake := List.mem_takeWhile_imp (List.mem_reverse.mp h)
  simp at htake

/-- What can stand before a name: nothing, or a text closed by a slash. -/
def IsDirectoryPart (d : Text) : Prop := d = [] ∨ ∃ s, d = s ++ [slash]

theorem isDirectoryPart_throughLast (t : Text) : IsDirectoryPart (throughLast slash t) := by
  unfold throughLast
  cases h : t.reverse.dropWhile (· != slash) with
  | nil => exact Or.inl rfl
  | cons d rest =>
      have hd : d = slash := by
        have hhead := List.head?_dropWhile_not (· != slash) t.reverse
        rw [h] at hhead
        simpa using hhead
      exact Or.inr ⟨rest.reverse, by rw [hd, List.reverse_cons]⟩

/-- What stands before a separator stays. -/
theorem throughLast_append_cons (c : Nat) (s t : Text) :
    throughLast c (s ++ c :: t) = s ++ c :: throughLast c t := by
  rw [throughLast, throughLast, List.reverse_append, List.reverse_cons, List.append_assoc,
    List.dropWhile_append]
  cases h : t.reverse.dropWhile (· != c) with
  | nil => simp
  | cons d rest => simp

theorem throughLast_append_of_mem {c : Nat} {t : Text} (h : c ∈ t) (s : Text) :
    throughLast c (s ++ t) = s ++ throughLast c t := by
  obtain ⟨u, v, rfl⟩ := List.append_of_mem h
  rw [← List.append_assoc, throughLast_append_cons, throughLast_append_cons, List.append_assoc]

theorem throughLast_of_not_mem {c : Nat} {t : Text} (h : c ∉ t) : throughLast c t = [] := by
  have hall : ∀ x ∈ t.reverse, (x != c) = true := by
    intro x hx
    simp only [bne_iff_ne]
    rintro rfl
    exact h (List.mem_reverse.mp hx)
  rw [throughLast, List.dropWhile_eq_nil_iff.mpr hall]
  rfl

theorem throughLast_append {c : Nat} {g : Text} (h : c ∉ g) (s : Text) :
    throughLast c (s ++ c :: g) = s ++ [c] := by
  rw [throughLast_append_cons, throughLast_of_not_mem h]

theorem afterLast_append {c : Nat} {g : Text} (h : c ∉ g) (s : Text) :
    afterLast c (s ++ c :: g) = g := by
  have hsplit := throughLast_append_afterLast c (s ++ c :: g)
  rw [throughLast_append h, List.append_assoc] at hsplit
  exact (List.cons.inj (List.append_cancel_left hsplit)).2

theorem prefix_throughLast (c : Nat) (t : Text) : throughLast c t <+: t :=
  ⟨_, throughLast_append_afterLast c t⟩

end Text

namespace Path

/-! ## Stacks of segments -/

/-- What a stack can hold: no empty segment, none that stays, none with a slash. -/
def Proper (segment : Text) : Prop := segment ≠ [] ∧ segment ≠ current ∧ slash ∉ segment

/-- A segment that leads one level down. -/
def IsSegment (segment : Text) : Prop := Proper segment ∧ segment ≠ parent

instance (segment : Text) : Decidable (Proper segment) :=
  inferInstanceAs (Decidable (segment ≠ [] ∧ segment ≠ current ∧ slash ∉ segment))

instance (segment : Text) : Decidable (IsSegment segment) :=
  inferInstanceAs (Decidable (Proper segment ∧ segment ≠ parent))

variable {rooted : Bool} {stack segments : List Text} {segment : Text}

theorem proper_parent : Proper parent := by
  unfold Proper
  decide

theorem pushSegment_of_stay (h : segment = [] ∨ segment = current) :
    pushSegment rooted stack segment = stack := by
  unfold pushSegment
  exact if_pos h

theorem pushSegment_of_name (h : ¬(segment = [] ∨ segment = current)) (hparent : segment ≠ parent) :
    pushSegment rooted stack segment = segment :: stack := by
  unfold pushSegment
  rw [if_neg h, if_neg hparent]

theorem pushSegment_of_isSegment (h : IsSegment segment) :
    pushSegment rooted stack segment = segment :: stack :=
  pushSegment_of_name (not_or.mpr ⟨h.1.1, h.1.2.1⟩) h.2

theorem pushSegment_parent (h : IsSegment segment) :
    pushSegment rooted (segment :: stack) parent = stack := by
  unfold pushSegment
  rw [if_neg (by decide), if_pos rfl]
  exact if_neg h.2

theorem pushSegment_parent_parent :
    pushSegment rooted (parent :: stack) parent = parent :: parent :: stack := rfl

theorem proper_pushSegment (hstack : ∀ s ∈ stack, Proper s) (h : slash ∉ segment) :
    ∀ s ∈ pushSegment rooted stack segment, Proper s := by
  unfold pushSegment
  split
  · exact hstack
  · rename_i hstay
    split
    · split
      · split <;> simp [proper_parent]
      · obtain ⟨htop, hbelow⟩ := List.forall_mem_cons.mp hstack
        split
        · exact List.forall_mem_cons.mpr ⟨proper_parent, hstack⟩
        · exact hbelow
    · obtain ⟨hne, hcurrent⟩ := not_or.mp hstay
      exact List.forall_mem_cons.mpr ⟨⟨hne, hcurrent, h⟩, hstack⟩

theorem proper_foldl (hstack : ∀ s ∈ stack, Proper s) (h : ∀ s ∈ segments, slash ∉ s) :
    ∀ s ∈ segments.foldl (pushSegment rooted) stack, Proper s := by
  induction segments generalizing stack with
  | nil => exact hstack
  | cons segment rest ih =>
      obtain ⟨hsegment, hrest⟩ := List.forall_mem_cons.mp h
      exact ih (proper_pushSegment hstack hsegment) hrest

theorem isSegment_pushSegment (hstack : ∀ s ∈ stack, IsSegment s) (h : slash ∉ segment) :
    ∀ s ∈ pushSegment true stack segment, IsSegment s := by
  unfold pushSegment
  split
  · exact hstack
  · rename_i hstay
    split
    · split
      · simp
      · obtain ⟨htop, hbelow⟩ := List.forall_mem_cons.mp hstack
        rw [if_neg htop.2]
        exact hbelow
    · rename_i hparent
      obtain ⟨hne, hcurrent⟩ := not_or.mp hstay
      exact List.forall_mem_cons.mpr ⟨⟨⟨hne, hcurrent, h⟩, hparent⟩, hstack⟩

/-- From the root no segment leads up. -/
theorem isSegment_foldl (hstack : ∀ s ∈ stack, IsSegment s) (h : ∀ s ∈ segments, slash ∉ s) :
    ∀ s ∈ segments.foldl (pushSegment true) stack, IsSegment s := by
  induction segments generalizing stack with
  | nil => exact hstack
  | cons segment rest ih =>
      obtain ⟨hsegment, hrest⟩ := List.forall_mem_cons.mp h
      exact ih (isSegment_pushSegment hstack hsegment) hrest

theorem foldl_of_isSegment (h : ∀ s ∈ segments, IsSegment s) :
    segments.foldl (pushSegment rooted) stack = segments.reverse ++ stack := by
  induction segments generalizing stack with
  | nil => rfl
  | cons segment rest ih =>
      obtain ⟨hsegment, hrest⟩ := List.forall_mem_cons.mp h
      rw [List.foldl_cons, pushSegment_of_isSegment hsegment, ih hrest]
      simp

/-- Pushing what a stack was written down as comes to pushing the segments it was made of. A segment
that leads up is either kept, and pushed later, or has taken back the one below it. -/
theorem foldl_normalSegments (h : ∀ s ∈ segments, slash ∉ s) :
    (normalSegments false segments).foldl (pushSegment rooted) stack =
      segments.foldl (pushSegment rooted) stack := by
  induction segments using List.reverseRecOn with
  | nil => rfl
  | append_singleton segments segment ih =>
      have hsegments : ∀ s ∈ segments, slash ∉ s := fun s hs => h s (List.mem_append_left _ hs)
      specialize ih hsegments
      have hproper : ∀ s ∈ segments.foldl (pushSegment false) [], Proper s :=
        proper_foldl (by simp) hsegments
      rw [normalSegments] at ih ⊢
      rw [List.foldl_append, List.foldl_append, ← ih, List.foldl_cons, List.foldl_nil,
        List.foldl_cons, List.foldl_nil]
      generalize segments.foldl (pushSegment false) [] = normal at hproper ⊢
      by_cases hstay : segment = [] ∨ segment = current
      · rw [pushSegment_of_stay hstay, pushSegment_of_stay hstay]
      · by_cases hparent : segment = parent
        · subst hparent
          cases normal with
          | nil => rfl
          | cons top below =>
              by_cases htop : top = parent
              · subst htop
                rw [pushSegment_parent_parent, List.reverse_cons, List.foldl_append,
                  List.foldl_cons, List.foldl_nil]
              · have htop : IsSegment top := ⟨hproper top List.mem_cons_self, htop⟩
                rw [pushSegment_parent htop, List.reverse_cons, List.foldl_append,
                  List.foldl_cons, List.foldl_nil, pushSegment_of_isSegment htop,
                  pushSegment_parent htop]
        · rw [pushSegment_of_name hstay hparent, List.reverse_cons, List.foldl_append,
            List.foldl_cons, List.foldl_nil]

/-! ## Pushing a path -/

/-- All segments of a path, pushed onto a stack. -/
def pushAll (rooted : Bool) (stack : List Text) (p : Text) : List Text :=
  (Text.split slash p).foldl (pushSegment rooted) stack

theorem pushAll_append_slash (p q : Text) :
    pushAll rooted stack (p ++ slash :: q) = pushAll rooted (pushAll rooted stack p) q := by
  rw [pushAll, Text.split_append_sep, List.foldl_append]
  rfl

theorem pushAll_slash (p : Text) :
    pushAll rooted stack (p ++ [slash]) = pushAll rooted stack p := by
  rw [pushAll_append_slash]
  rfl

theorem pushAll_of_isSegment (h : IsSegment segment) :
    pushAll rooted stack segment = segment :: stack := by
  rw [pushAll, Text.split_of_not_mem h.1.2.2]
  exact pushSegment_of_isSegment h

theorem pushAll_join (h : ∀ s ∈ segments, slash ∉ s) :
    pushAll rooted stack (Text.join [slash] segments) =
      segments.foldl (pushSegment rooted) stack := by
  cases segments with
  | nil => rfl
  | cons s rest => rw [pushAll, Text.split_join (by simp) h]

theorem isSegment_pushAll (p : Text) : ∀ s ∈ pushAll true [] p, IsSegment s :=
  isSegment_foldl (by simp) fun _ => Text.not_mem_of_mem_split

theorem proper_normalSegments (rooted : Bool) (p : Text) :
    ∀ s ∈ normalSegments rooted (Text.split slash p), Proper s := fun s hs =>
  proper_foldl (by simp) (fun _ => Text.not_mem_of_mem_split) s (List.mem_reverse.mp hs)

/-! ## Roots -/

section Roots

variable {p q c : Text}

theorem startsWith_append_of_relative (hc : isAbsolute c = false) (count : Nat) (q : Text) :
    Text.startsWith (q ++ c) (List.replicate count slash) =
      Text.startsWith q (List.replicate count slash) := by
  induction count generalizing q with
  | zero => rfl
  | succ count ih =>
      cases q with
      | nil =>
          cases c with
          | nil => rfl
          | cons d rest =>
              have hd : (slash == d) = false := by
                simpa [isAbsolute, Text.startsWith, List.isPrefixOf] using hc
              simp [Text.startsWith, List.replicate_succ, List.isPrefixOf, hd]
      | cons d rest =>
          have hrest := ih rest
          simp only [Text.startsWith] at hrest
          simp [Text.startsWith, List.replicate_succ, List.isPrefixOf, hrest]

theorem isAbsolute_append (hc : isAbsolute c = false) (q : Text) :
    isAbsolute (q ++ c) = isAbsolute q := startsWith_append_of_relative hc 1 q

/-- What is relative says nothing about the root. -/
theorem rootSlashes_append (hc : isAbsolute c = false) (q : Text) :
    rootSlashes (q ++ c) = rootSlashes q := by
  have h1 := startsWith_append_of_relative hc 1 q
  have h2 := startsWith_append_of_relative hc 2 q
  have h3 := startsWith_append_of_relative hc 3 q
  show (if Text.startsWith (q ++ c) (List.replicate 3 slash) then 1
    else if Text.startsWith (q ++ c) (List.replicate 2 slash) then 2
    else if Text.startsWith (q ++ c) (List.replicate 1 slash) then 1 else 0) = _
  rw [h1, h2, h3]
  rfl

theorem rootSlashes_of_relative (h : isAbsolute p = false) : rootSlashes p = 0 :=
  rootSlashes_append h []

theorem rootSlashes_of_isAbsolute (h : isAbsolute p = true) :
    rootSlashes p = 1 ∨ rootSlashes p = 2 := by
  have hroot : Text.startsWith p "/" = true := h
  unfold rootSlashes
  split
  · exact Or.inl rfl
  · split
    · exact Or.inr rfl
    · exact Or.inl rfl

theorem isAbsolute_of_not_mem (h : slash ∉ p) : isAbsolute p = false := by
  rw [← Bool.not_eq_true, isAbsolute, Text.startsWith_iff]
  exact fun hpre => h (hpre.subset (List.mem_singleton.mpr rfl))

theorem isAbsolute_join (h : ∀ s ∈ segments, Proper s) :
    isAbsolute (Text.join [slash] segments) = false := by
  cases segments with
  | nil => rfl
  | cons s rest =>
      obtain ⟨⟨hne, -, hslash⟩, -⟩ := List.forall_mem_cons.mp h
      obtain ⟨c, more, rfl⟩ := List.exists_cons_of_ne_nil hne
      have hc : (slash == c) = false := by
        simpa using (not_or.mp (mt List.mem_cons.mpr hslash)).1
      cases rest <;>
        simp [Text.join, isAbsolute, Text.startsWith, List.isPrefixOf, hc]

/-! ## Normal forms -/

theorem normalize_of_isAbsolute (h : isAbsolute p = true) :
    normalize p =
      List.replicate (rootSlashes p) slash ++ Text.join [slash] (pushAll true [] p).reverse := by
  have hpos : 0 < rootSlashes p := by
    rcases rootSlashes_of_isAbsolute h with hroot | hroot <;> omega
  rw [normalize, normalSegments, decide_eq_true hpos]
  refine if_neg fun hnil => ?_
  have hreplicate := (List.append_eq_nil_iff.mp hnil).1
  rw [List.replicate_eq_nil_iff] at hreplicate
  omega

theorem normalize_congr (hp : isAbsolute p = true) (hq : isAbsolute q = true)
    (hroot : rootSlashes p = rootSlashes q) (hpush : pushAll true [] p = pushAll true [] q) :
    normalize p = normalize q := by
  rw [normalize_of_isAbsolute hp, normalize_of_isAbsolute hq, hroot, hpush]

theorem join_eq_nil_iff (h : ∀ s ∈ segments, Proper s) :
    Text.join [slash] segments = [] ↔ segments = [] := by
  refine ⟨fun hnil => ?_, fun hnil => by rw [hnil]; rfl⟩
  cases segments with
  | nil => rfl
  | cons s rest =>
      have hs : s ≠ [] := (List.forall_mem_cons.mp h).1.1
      cases rest with
      | nil => exact absurd hnil hs
      | cons other rest => simp [Text.join, hs] at hnil

/-- A relative path without segments is the current directory. -/
theorem normalize_of_relative (h : isAbsolute p = false) :
    normalize p =
      if normalSegments false (Text.split slash p) = [] then current
      else Text.join [slash] (normalSegments false (Text.split slash p)) := by
  have hnil := join_eq_nil_iff (proper_normalSegments false p)
  rw [normalize, rootSlashes_of_relative h]
  show (if Text.join [slash] (normalSegments false (Text.split slash p)) = []
    then current else Text.join [slash] (normalSegments false (Text.split slash p))) = _
  simp only [hnil]

theorem isAbsolute_normalize (p : Text) : isAbsolute (normalize p) = isAbsolute p := by
  cases h : isAbsolute p with
  | true =>
      rw [normalize_of_isAbsolute h]
      rcases rootSlashes_of_isAbsolute h with hroot | hroot <;> rw [hroot] <;> rfl
  | false =>
      rw [normalize_of_relative h]
      split
      · rfl
      · exact isAbsolute_join (proper_normalSegments _ p)

/-- A relative path leads where its normal form leads. -/
theorem pushAll_normalize (h : isAbsolute p = false) :
    pushAll rooted stack (normalize p) = pushAll rooted stack p := by
  have hproper := proper_normalSegments false p
  have hfold : (normalSegments false (Text.split slash p)).foldl (pushSegment rooted) stack =
      pushAll rooted stack p := foldl_normalSegments fun _ => Text.not_mem_of_mem_split
  rw [normalize_of_relative h]
  split
  · rename_i hnil
    rw [hnil] at hfold
    exact hfold
  · rw [pushAll_join fun s hs => (hproper s hs).2.2, hfold]

/-- Nothing new is taken back when an absolute path is written down. -/
theorem pushAll_normalize_of_isAbsolute (h : isAbsolute p = true) :
    pushAll true [] (normalize p) = pushAll true [] p := by
  have hsegments : ∀ s ∈ (pushAll true [] p).reverse, IsSegment s := fun s hs =>
    isSegment_pushAll p s (List.mem_reverse.mp hs)
  have hjoin : pushAll true [] (Text.join [slash] (pushAll true [] p).reverse) = pushAll true [] p := by
    rw [pushAll_join fun s hs => (hsegments s hs).1.2.2, foldl_of_isSegment hsegments,
      List.reverse_reverse, List.append_nil]
  have hslash : ∀ t, pushAll true [] (slash :: t) = pushAll true [] t := pushAll_append_slash []
  rw [normalize_of_isAbsolute h]
  rcases rootSlashes_of_isAbsolute h with hroot | hroot
  · rw [hroot]
    exact (hslash _).trans hjoin
  · rw [hroot]
    exact (hslash _).trans ((hslash _).trans hjoin)

theorem rootSlashes_normalize (h : isAbsolute p = true) :
    rootSlashes (normalize p) = rootSlashes p := by
  have hjoin : isAbsolute (Text.join [slash] (pushAll true [] p).reverse) = false :=
    isAbsolute_join fun s hs => (isSegment_pushAll p s (List.mem_reverse.mp hs)).1
  rw [normalize_of_isAbsolute h, rootSlashes_append hjoin]
  rcases rootSlashes_of_isAbsolute h with hroot | hroot <;> rw [hroot] <;> rfl

theorem normalize_normalize (h : isAbsolute p = true) : normalize (normalize p) = normalize p :=
  normalize_congr ((isAbsolute_normalize p).trans h) h (rootSlashes_normalize h)
    (pushAll_normalize_of_isAbsolute h)

end Roots

/-! ## Entries of a directory -/

section Entries

variable {p q c g : Text}

theorem append_of_relative (hc : isAbsolute c = false) (p : Text) :
    append p c = append p [] ++ c := by
  have hnil : isAbsolute [] = false := rfl
  simp only [append, hc, hnil, Bool.false_eq_true, if_false, List.append_nil]
  split <;> rfl

theorem exists_append_nil (hne : p ≠ []) : ∃ base, append p [] = base ++ [slash] := by
  rw [append, if_neg (by decide)]
  split
  · rename_i h
    rw [Bool.or_eq_true, decide_eq_true_eq, or_iff_right hne, Text.endsWith_iff] at h
    obtain ⟨base, hbase⟩ := h
    exact ⟨base, by rw [List.append_nil, hbase]⟩
  · exact ⟨p, List.append_nil _⟩

theorem isDirectoryText_iff : isDirectoryText p = true ↔ [slash] <:+ p := Text.endsWith_iff

theorem not_isDirectoryText_append (hne : g ≠ []) (h : slash ∉ g) (p : Text) :
    isDirectoryText (p ++ g) = false := by
  rw [← Bool.not_eq_true, isDirectoryText_iff]
  rintro ⟨more, hmore⟩
  have hlast : (p ++ g).getLast? = some slash := by simp [← hmore]
  rw [List.getLast?_append_of_ne_nil p hne] at hlast
  exact h (List.mem_of_getLast? hlast)

theorem not_isDirectoryText_join (hne : segments ≠ []) (h : ∀ s ∈ segments, Proper s) (p : Text) :
    isDirectoryText (p ++ Text.join [slash] segments) = false := by
  obtain ⟨init, last, rfl⟩ : ∃ init last, segments = init ++ [last] :=
    ⟨_, _, (List.dropLast_append_getLast hne).symm⟩
  have hlast : Proper last := h last (by simp)
  cases init with
  | nil => exact not_isDirectoryText_append hlast.1 hlast.2.2 p
  | cons first init =>
      have hassoc : p ++ (Text.join [slash] (first :: init) ++ slash :: last) =
          (p ++ Text.join [slash] (first :: init) ++ [slash]) ++ last := by simp
      rw [Text.join_append_singleton (by simp), hassoc]
      exact not_isDirectoryText_append hlast.1 hlast.2.2 _

/-- A segment stands behind the normal form of what stood before it. -/
theorem normalize_append_segment (hp : isAbsolute (p ++ [slash]) = true) (hg : IsSegment g) :
    normalize (p ++ slash :: g) = append (normalize (p ++ [slash])) g := by
  have hrelative : isAbsolute g = false := isAbsolute_of_not_mem hg.1.2.2
  have hassoc : p ++ slash :: g = (p ++ [slash]) ++ g := by simp
  have habsolute : isAbsolute (p ++ slash :: g) = true := by
    rw [hassoc, isAbsolute_append hrelative, hp]
  have hroot : rootSlashes (p ++ slash :: g) = rootSlashes (p ++ [slash]) := by
    rw [hassoc, rootSlashes_append hrelative]
  have hsegments : ∀ s ∈ (pushAll true [] p).reverse, Proper s := fun s hs =>
    (isSegment_pushAll p s (List.mem_reverse.mp hs)).1
  rw [normalize_of_isAbsolute habsolute, normalize_of_isAbsolute hp, hroot, pushAll_append_slash,
    pushAll_slash, pushAll_of_isSegment hg, List.reverse_cons, append, if_neg (by simp [hrelative])]
  by_cases hnil : (pushAll true [] p).reverse = []
  · have hdirectory : Text.endsWith (List.replicate (rootSlashes (p ++ [slash])) slash) [slash] =
        true := by
      rcases rootSlashes_of_isAbsolute hp with hroot | hroot <;> rw [hroot] <;> rfl
    rw [hnil, List.nil_append, Text.join, Text.join, List.append_nil, hdirectory, Bool.or_true,
      if_pos rfl]
  · have hopen : Text.endsWith (List.replicate (rootSlashes (p ++ [slash])) slash ++
        Text.join [slash] (pushAll true [] p).reverse) [slash] = false :=
      not_isDirectoryText_join hnil hsegments _
    have hjoin : Text.join [slash] (pushAll true [] p).reverse ≠ [] :=
      mt (join_eq_nil_iff hsegments).mp hnil
    rw [hopen, Text.join_append_singleton hnil, if_neg (by simp [hjoin])]
    simp

/-- A closing slash says nothing about the root. -/
theorem rootSlashes_append_slash (hne : p ≠ []) (h : isDirectoryText p = false) :
    rootSlashes (p ++ [slash]) = rootSlashes p := by
  have hlast : Text.afterLast slash p ≠ [] := by
    intro hnil
    have hp := Text.throughLast_append_afterLast slash p
    rw [hnil, List.append_nil] at hp
    rcases Text.isDirectoryPart_throughLast p with hempty | ⟨q, hq⟩
    · exact hne (hp ▸ hempty)
    · rw [← hp, hq, ← Bool.not_eq_true, isDirectoryText_iff] at h
      exact h (List.suffix_append q [slash])
  have hrelative : isAbsolute (Text.afterLast slash p) = false :=
    isAbsolute_of_not_mem (Text.not_mem_afterLast slash p)
  have hclosed : isAbsolute (Text.afterLast slash p ++ [slash]) = false := by
    obtain ⟨c, rest, hcons⟩ := List.exists_cons_of_ne_nil hlast
    rw [hcons] at hrelative ⊢
    exact hrelative
  calc rootSlashes (p ++ [slash])
      = rootSlashes (Text.throughLast slash p ++ (Text.afterLast slash p ++ [slash])) := by
        rw [← List.append_assoc, Text.throughLast_append_afterLast]
    _ = rootSlashes (Text.throughLast slash p) := rootSlashes_append hclosed _
    _ = rootSlashes p := by
        rw [← rootSlashes_append hrelative, Text.throughLast_append_afterLast]

theorem ne_nil_of_isAbsolute (h : isAbsolute p = true) : p ≠ [] := by
  rintro rfl
  cases h

theorem isAbsolute_append_of_ne_nil (hne : p ≠ []) (q : Text) :
    isAbsolute (p ++ q) = isAbsolute p := by
  obtain ⟨c, rest, rfl⟩ := List.exists_cons_of_ne_nil hne
  rfl

end Entries

/-! ## Clean paths -/

/-- Slashes for backslashes. -/
def withSlashes (p : Text) : Text := Text.replace '\\' slash p

theorem withSlashes_append (p q : Text) : withSlashes (p ++ q) = withSlashes p ++ withSlashes q :=
  List.map_append

/-- Either kind of slash at the end is one. -/
theorem withSlashes_concat {c : Nat} (hc : c = slash ∨ c = ('\\' : Nat)) (p : Text) :
    withSlashes (p ++ [c]) = withSlashes p ++ [slash] := by
  rw [withSlashes_append]
  rcases hc with rfl | rfl <;> rfl

theorem withSlashes_of_not_mem {p : Text} (h : ('\\' : Nat) ∉ p) : withSlashes p = p := by
  have hsame : ∀ c ∈ p, (if c = ('\\' : Nat) then slash else c) = c := by
    intro c hc
    rw [if_neg]
    rintro rfl
    exact h hc
  exact (List.map_congr_left hsame).trans (List.map_id p)

/-- A name of an entry, which no cleaning changes. -/
structure IsName (g : Text) : Prop where
  isSegment : IsSegment g
  no_backslash : ('\\' : Nat) ∉ g

theorem normalize_ne_nil (p : Text) : normalize p ≠ [] := by
  intro h
  simp only [normalize] at h
  split at h
  · cases h
  · contradiction

theorem clean_eq_if {p : Text} (hne : p ≠ []) :
    clean p = if (isDirectoryText (withSlashes p) && !isDirectoryText (normalize (withSlashes p))) = true
      then normalize (withSlashes p) ++ [slash] else normalize (withSlashes p) := by
  rw [clean, if_neg hne]
  rfl

/-- A clean path is the normal form of the path with slashes, sometimes closed by another slash. -/
theorem clean_eq {p : Text} (hne : p ≠ []) :
    clean p = normalize (withSlashes p)
      ∨ (clean p = normalize (withSlashes p) ++ [slash]
        ∧ isDirectoryText (normalize (withSlashes p)) = false) := by
  rw [clean_eq_if hne]
  split
  · rename_i h
    rw [Bool.and_eq_true, Bool.not_eq_true'] at h
    exact Or.inr ⟨rfl, h.2⟩
  · exact Or.inl rfl

theorem clean_ne_nil {p : Text} (hne : p ≠ []) : clean p ≠ [] := by
  rcases clean_eq hne with hclean | ⟨hclean, -⟩
  · rw [hclean]
    exact normalize_ne_nil _
  · simp [hclean]

theorem isAbsolute_clean (p : Text) : isAbsolute (clean p) = isAbsolute (withSlashes p) := by
  by_cases hne : p = []
  · subst hne
    rfl
  · rcases clean_eq hne with hclean | ⟨hclean, -⟩
    · rw [hclean, isAbsolute_normalize]
    · rw [hclean, isAbsolute_append_of_ne_nil (normalize_ne_nil _), isAbsolute_normalize]

/-- A clean relative path leads where the path leads. -/
theorem pushAll_clean {p : Text} (h : isAbsolute (withSlashes p) = false) :
    pushAll rooted stack (clean p) = pushAll rooted stack (withSlashes p) := by
  by_cases hne : p = []
  · subst hne
    rfl
  · rcases clean_eq hne with hclean | ⟨hclean, -⟩
    · rw [hclean, pushAll_normalize h]
    · rw [hclean, pushAll_slash, pushAll_normalize h]

theorem normalize_clean {p : Text} (h : isAbsolute (withSlashes p) = true) :
    normalize (clean p) = normalize (withSlashes p) := by
  have hne : p ≠ [] := by
    rintro rfl
    cases h
  rcases clean_eq hne with hclean | ⟨hclean, hopen⟩
  · rw [hclean, normalize_normalize h]
  · refine normalize_congr ((isAbsolute_clean p).trans h) h ?_ ?_
    · rw [hclean, rootSlashes_append_slash (normalize_ne_nil _) hopen, rootSlashes_normalize h]
    · rw [hclean, pushAll_slash, pushAll_normalize_of_isAbsolute h]

end Path

/-! ## Anchored paths -/

namespace Store

/-- Relative paths stand behind one absolute directory. -/
theorem exists_anchor (store : Store) (host : Host) :
    ∃ base, Path.isAbsolute (base ++ [slash]) = true ∧ ∀ c, Path.isAbsolute c = false →
      Path.append host.workingDirectory.toPath (store.anchor c) = base ++ slash :: c := by
  obtain ⟨working, hworking⟩ : ∃ base, Path.append host.workingDirectory.toPath [] = base ++ [slash] :=
    Path.exists_append_nil (List.cons_ne_nil _ _)
  have habsolute : ∀ more, Path.isAbsolute (working ++ [slash] ++ more) = true := by
    intro more
    rw [← hworking, Path.append, if_neg (by decide)]
    split <;> rfl
  have hrelative : ∀ c, Path.isAbsolute c = false →
      Path.append host.workingDirectory.toPath c = working ++ slash :: c := by
    intro c hc
    rw [Path.append_of_relative hc, hworking]
    simp
  unfold Store.anchor
  cases store.baseDirectory with
  | none => exact ⟨working, by simpa using habsolute [], hrelative⟩
  | some b =>
      dsimp only
      by_cases hb : b = []
      · subst hb
        refine ⟨working, by simpa using habsolute [], fun c hc => ?_⟩
        have hempty : Path.append [] c = c := by
          rw [Path.append, if_neg (by simp [hc])]
          rfl
        rw [if_neg (by simp [hc]), hempty]
        exact hrelative c hc
      · obtain ⟨base, hbase⟩ := Path.exists_append_nil hb
        have hanchor : ∀ c, Path.isAbsolute c = false →
            (if Path.isAbsolute c = true then c else Path.append b c) = base ++ slash :: c := by
          intro c hc
          rw [if_neg (by simp [hc]), Path.append_of_relative hc, hbase]
          simp
        cases hroot : Path.isAbsolute (base ++ [slash]) with
        | true =>
            refine ⟨base, hroot, fun c hc => ?_⟩
            have htext : Path.isAbsolute (base ++ slash :: c) = true := by
              rw [← hroot, show base ++ slash :: c = (base ++ [slash]) ++ c by simp]
              exact Path.isAbsolute_append_of_ne_nil (by simp) c
            rw [hanchor c hc, Path.append, if_pos htext]
        | false =>
            refine ⟨working ++ slash :: base, by simpa using habsolute (base ++ [slash]),
              fun c hc => ?_⟩
            have htext : Path.isAbsolute (base ++ slash :: c) = false := by
              rw [← hroot, show base ++ slash :: c = (base ++ [slash]) ++ c by simp]
              exact Path.isAbsolute_append_of_ne_nil (by simp) c
            rw [hanchor c hc, hrelative _ htext]
            simp

theorem anchor_of_isAbsolute {store : Store} {c : Text} (hc : Path.isAbsolute c = true) :
    store.anchor c = c := by
  unfold anchor
  split
  · rw [if_pos hc]
  · rfl

theorem append_anchor_of_isAbsolute {store : Store} {host : Host} {c : Text}
    (hc : Path.isAbsolute c = true) :
    Path.append host.workingDirectory.toPath (store.anchor c) = c := by
  rw [anchor_of_isAbsolute hc, Path.append, if_pos hc]

/-- The absolute path of an entry is the same whether its path is cleaned or not. -/
theorem absolutePath_anchor_clean (store : Store) (host : Host) (p : Text) :
    host.absolutePath (store.anchor (Path.clean p)) =
      Path.normalize (Path.append host.workingDirectory.toPath
        (store.anchor (Path.withSlashes p))) := by
  show Path.normalize (Path.append host.workingDirectory.toPath
    (store.anchor (Path.clean p))) = _
  cases h : Path.isAbsolute (Path.withSlashes p) with
  | true =>
      have hclean : Path.isAbsolute (Path.clean p) = true := (Path.isAbsolute_clean p).trans h
      rw [append_anchor_of_isAbsolute hclean, append_anchor_of_isAbsolute h, Path.normalize_clean h]
  | false =>
      have hclean : Path.isAbsolute (Path.clean p) = false := (Path.isAbsolute_clean p).trans h
      obtain ⟨base, hbase, hanchor⟩ := store.exists_anchor host
      have habsolute : ∀ c, Path.isAbsolute c = false →
          Path.isAbsolute (base ++ slash :: c) = true
            ∧ Path.rootSlashes (base ++ slash :: c) = Path.rootSlashes (base ++ [slash]) := by
        intro c hc
        rw [show base ++ slash :: c = (base ++ [slash]) ++ c by simp]
        exact ⟨(Path.isAbsolute_append hc _).trans hbase, Path.rootSlashes_append hc _⟩
      obtain ⟨h1, hroot1⟩ := habsolute _ hclean
      obtain ⟨h2, hroot2⟩ := habsolute _ h
      rw [hanchor _ hclean, hanchor _ h]
      refine Path.normalize_congr h1 h2 (hroot1.trans hroot2.symm) ?_
      rw [Path.pushAll_append_slash, Path.pushAll_append_slash, Path.pushAll_clean h]

/-- An entry has the absolute path of its directory with its name behind it. -/
theorem absolutePath_entry (store : Store) (host : Host) {d g : Text}
    (hd : d.IsDirectoryPart) (hg : Path.IsName g) :
    host.absolutePath (store.anchor (Path.clean (d ++ g))) =
      Path.append (host.absolutePath (store.anchor (Path.clean d))) g := by
  obtain ⟨base, hbase, hanchor⟩ := store.exists_anchor host
  have hrelative : Path.isAbsolute g = false := Path.isAbsolute_of_not_mem hg.isSegment.1.2.2
  rw [absolutePath_anchor_clean, absolutePath_anchor_clean, Path.withSlashes_append,
    Path.withSlashes_of_not_mem hg.no_backslash]
  rcases hd with rfl | ⟨s, rfl⟩
  · show Path.normalize (Path.append _ (store.anchor g)) =
      Path.append (Path.normalize (Path.append _ (store.anchor []))) g
    rw [hanchor g hrelative, hanchor [] rfl]
    exact Path.normalize_append_segment hbase hg.isSegment
  · rw [Path.withSlashes_concat (Or.inl rfl)]
    generalize Path.withSlashes s = s
    have hassoc : s ++ [slash] ++ g = s ++ slash :: g := by simp
    cases h : Path.isAbsolute (s ++ [slash]) with
    | true =>
        have hentry : Path.isAbsolute (s ++ [slash] ++ g) = true :=
          (Path.isAbsolute_append hrelative _).trans h
        rw [append_anchor_of_isAbsolute hentry, append_anchor_of_isAbsolute h, hassoc]
        exact Path.normalize_append_segment h hg.isSegment
    | false =>
        have hentry : Path.isAbsolute (s ++ [slash] ++ g) = false :=
          (Path.isAbsolute_append hrelative _).trans h
        rw [hanchor _ hentry, hanchor _ h]
        have hroot : Path.isAbsolute ((base ++ slash :: s) ++ [slash]) = true := by
          rw [← hbase, show (base ++ slash :: s) ++ [slash] = (base ++ [slash]) ++ (s ++ [slash]) by
            simp]
          exact Path.isAbsolute_append_of_ne_nil (by simp) _
        have hsegment := Path.normalize_append_segment hroot hg.isSegment
        simpa using hsegment

end Store

end ConfigLocator
