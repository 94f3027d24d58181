import ConfigLocator.Proofs.PatternMatches

/-!
# Clean paths

Cleaning gives a path a form of its own (`Path.IsClean`): there is no backslash in it, nothing stays
in it, and what leads outwards stands in front, where no root stands before it. The paths of this form
are exactly those that cleaning leaves as they are (`Path.clean_eq_self_iff`), so that a path needs to
be cleaned once.

A clean path means what the path means: from any working directory both have one absolute path
(`Path.absolute_clean`).
-/

namespace ConfigLocator

namespace Path

variable {rooted : Bool} {p : Text} {segments before after : List Text}

/-! ## The form of clean paths -/

/-- What stands between the slashes of a path, behind those of the root. -/
def belowRoot (p : Text) : List Text := Text.split slash (p.drop (rootSlashes p))

/-- An empty segment is the end of the path, a segment that stays is the whole of a relative path, and
segments that lead outwards stand in front in a relative path. -/
structure IsClean (p : Text) : Prop where
  no_backslash : backslash ∉ p
  of_empty {before after : List Text} : belowRoot p = before ++ [] :: after → after = []
  of_current {before after : List Text} : belowRoot p = before ++ current :: after →
    isAbsolute p = false ∧ before = [] ∧ (after = [] ∨ after = [[]])
  of_parent {before after : List Text} : belowRoot p = before ++ parent :: after →
    isAbsolute p = false ∧ ∀ s ∈ before, s = parent

theorem isAbsolute_iff_rootSlashes : isAbsolute p = true ↔ 0 < rootSlashes p := by
  constructor
  · intro h
    rcases rootSlashes_of_isAbsolute h with hroot | hroot <;> omega
  · intro h
    by_contra hrelative
    rw [rootSlashes_of_relative (Bool.not_eq_true _ ▸ hrelative)] at h
    exact absurd h (Nat.lt_irrefl 0)

theorem rootSlashes_le_two (p : Text) : rootSlashes p ≤ 2 := by
  by_cases h : isAbsolute p = true
  · rcases rootSlashes_of_isAbsolute h with hroot | hroot <;> omega
  · rw [rootSlashes_of_relative (Bool.not_eq_true _ ▸ h)]
    exact Nat.zero_le 2

theorem rootSlashes_replicate {count : Nat} (hcount : count ≤ 2) {body : Text}
    (hbody : isAbsolute body = false) : rootSlashes (List.replicate count slash ++ body) = count := by
  rw [rootSlashes_append hbody]
  match count, hcount with
  | 0, _ => rfl
  | 1, _ => rfl
  | 2, _ => rfl

theorem belowRoot_replicate {count : Nat} (hcount : count ≤ 2) {body : Text}
    (hbody : isAbsolute body = false) :
    belowRoot (List.replicate count slash ++ body) = Text.split slash body := by
  rw [belowRoot, rootSlashes_replicate hcount hbody, List.drop_left' (List.length_replicate ..)]

theorem replicate_append_drop (p : Text) :
    List.replicate (rootSlashes p) slash ++ p.drop (rootSlashes p) = p := by
  have hstarts : ∀ {count : Nat}, Text.startsWith p (List.replicate count slash) = true →
      List.replicate count slash ++ p.drop count = p := by
    intro count h
    obtain ⟨rest, rfl⟩ := Text.startsWith_iff.mp h
    rw [List.drop_left' (List.length_replicate ..)]
  by_cases h : isAbsolute p = true
  · rcases rootSlashes_of_isAbsolute h with hroot | hroot
    · rw [hroot]
      exact hstarts h
    · rw [hroot]
      refine @hstarts 2 ?_
      unfold rootSlashes at hroot
      split at hroot
      · cases hroot
      · split at hroot
        · assumption
        · split at hroot <;> cases hroot
  · rw [rootSlashes_of_relative (Bool.not_eq_true _ ▸ h)]
    rfl

/-! ## What cleaning writes -/

/-- Steps outwards, where there is no root, then names, then perhaps a closing slash. -/
inductive GoesDown (rooted : Bool) : List Text → Prop
  | intro {outwards : Nat} {names closing : List Text} (houtwards : rooted = true → outwards = 0)
      (hnames : ∀ s ∈ names, IsSegment s) (hclosing : closing = [] ∨ closing = [[]]) :
      GoesDown rooted (List.replicate outwards parent ++ (names ++ closing))

theorem goesDown_normalSegments (rooted : Bool) (p : Text) {closing : List Text}
    (hclosing : closing = [] ∨ closing = [[]]) :
    GoesDown rooted (normalSegments rooted (Text.split slash p) ++ closing) := by
  cases rooted with
  | true =>
      have hnames : ∀ s ∈ normalSegments true (Text.split slash p), IsSegment s := fun s hs =>
        isSegment_pushAll p s (List.mem_reverse.mp hs)
      exact @GoesDown.intro true 0 _ _ (fun _ => rfl) hnames hclosing
  | false =>
      obtain ⟨outwards, names, hnormal, hnames⟩ := exists_normalSegments p
      rw [hnormal, List.append_assoc]
      exact .intro (fun h => by cases h) hnames hclosing

section Join

variable {count : Nat}

theorem isDirectoryText_replicate (hcount : count ≠ 0) :
    isDirectoryText (List.replicate count slash) = true := by
  obtain ⟨more, rfl⟩ := Nat.exists_eq_succ_of_ne_zero hcount
  rw [isDirectoryText_iff, List.replicate_succ']
  exact List.suffix_append _ _

theorem belowRoot_join (hcount : count ≤ 2) (h : ∀ s ∈ segments, Proper s) :
    ∃ closing, (closing = [] ∨ closing = [[]])
      ∧ belowRoot (List.replicate count slash ++ Text.join [slash] segments) = segments ++ closing := by
  rw [belowRoot_replicate hcount (isAbsolute_join h)]
  by_cases hnil : segments = []
  · subst hnil
    exact ⟨[[]], Or.inr rfl, rfl⟩
  · exact ⟨[], Or.inl rfl, by rw [Text.split_join hnil fun s hs => (h s hs).2.2, List.append_nil]⟩

theorem belowRoot_join_slash (hcount : count ≤ 2) (hne : segments ≠ [])
    (h : ∀ s ∈ segments, Proper s) :
    belowRoot (List.replicate count slash ++ Text.join [slash] segments ++ [slash]) =
      segments ++ [[]] := by
  have hjoin : Text.join [slash] segments ≠ [] := mt (join_eq_nil_iff h).mp hne
  have hrelative : isAbsolute (Text.join [slash] segments ++ [slash]) = false :=
    (isAbsolute_append_of_ne_nil hjoin [slash]).trans (isAbsolute_join h)
  rw [List.append_assoc, belowRoot_replicate hcount hrelative, Text.split_append_sep,
    Text.split_join hne fun s hs => (h s hs).2.2]
  rfl

end Join

theorem belowRoot_clean (hne : p ≠ []) :
    (isAbsolute (clean p) = false
        ∧ (belowRoot (clean p) = [current] ∨ belowRoot (clean p) = [current, []]))
      ∨ GoesDown (isAbsolute (clean p)) (belowRoot (clean p)) := by
  have hrooted : isAbsolute (clean p) = decide (0 < rootSlashes (withSlashes p)) := by
    rw [isAbsolute_clean, Bool.eq_iff_iff, isAbsolute_iff_rootSlashes, decide_eq_true_iff]
  have hclean := clean_eq hne
  have htwo := rootSlashes_le_two (withSlashes p)
  have hproper := proper_normalSegments (0 < rootSlashes (withSlashes p)) (withSlashes p)
  have hdown : ∀ {closing : List Text}, closing = [] ∨ closing = [[]] →
      GoesDown _ (normalSegments _ _ ++ closing) :=
    goesDown_normalSegments (0 < rootSlashes (withSlashes p)) (withSlashes p)
  rw [normalize] at hclean
  rw [hrooted]
  split at hclean
  · -- Nothing is left of the path.
    refine Or.inl ⟨?_, ?_⟩
    · rename_i hnil
      rw [decide_eq_false_iff_not, Nat.not_lt, Nat.le_zero, ← List.replicate_eq_nil_iff slash]
      exact (List.append_eq_nil_iff.mp hnil).1
    · rcases hclean with hclean | ⟨hclean, -⟩
      · exact Or.inl (by rw [hclean]; rfl)
      · exact Or.inr (by rw [hclean]; rfl)
  · rename_i hpath
    refine Or.inr ?_
    rcases hclean with hclean | ⟨hclean, hopen⟩
    · obtain ⟨closing, hclosing, hbelow⟩ := belowRoot_join htwo hproper
      rw [hclean, hbelow]
      exact hdown hclosing
    · rw [hclean, belowRoot_join_slash htwo ?_ hproper]
      · exact hdown (Or.inr rfl)
      · -- Only the root ends with a slash, and it is closed already.
        intro hnil
        rw [hnil, Text.join, List.append_nil] at hpath hopen
        have hroot : rootSlashes (withSlashes p) ≠ 0 := fun hzero => hpath (by rw [hzero]; rfl)
        exact Bool.false_ne_true (hopen.symm.trans (isDirectoryText_replicate hroot))

/-! ## Clean paths have the form -/

section GoesDown

variable (h : GoesDown rooted segments)

include h

/-- Only the last segment can be empty. -/
theorem GoesDown.eq_nil_of_empty (hsplit : segments = before ++ [] :: after) : after = [] := by
  obtain @⟨outwards, names, closing, -, hnames, hclosing⟩ := h
  have hfull : [] ∉ List.replicate outwards parent ++ names := by
    rw [List.mem_append, not_or]
    exact ⟨fun hmem => absurd (List.eq_of_mem_replicate hmem) (by decide),
      fun hmem => (hnames [] hmem).1.1 rfl⟩
  rw [← List.append_assoc] at hsplit
  rcases place_of_append hsplit with ⟨front, -, hlast⟩ | ⟨behind, hinner, -⟩
  · rcases hclosing with rfl | rfl
    · simp at hlast
    · rcases front with _ | ⟨s, front⟩
      · exact (List.cons.inj hlast).2.symm
      · simp at hlast
  · exact absurd (hinner ▸ by simp) hfull

theorem GoesDown.current_not_mem : current ∉ segments := by
  obtain @⟨outwards, names, closing, -, hnames, hclosing⟩ := h
  rw [List.mem_append, List.mem_append]
  rintro (hmem | hmem | hmem)
  · exact absurd (List.eq_of_mem_replicate hmem) (by decide)
  · exact (hnames current hmem).1.2.1 rfl
  · rcases hclosing with rfl | rfl
    · cases hmem
    · exact absurd (List.mem_singleton.mp hmem) (by decide)

/-- Steps outwards are behind no root and nothing but steps outwards. -/
theorem GoesDown.of_parent (hsplit : segments = before ++ parent :: after) :
    rooted = false ∧ ∀ s ∈ before, s = parent := by
  obtain @⟨outwards, names, closing, houtwards, hnames, hclosing⟩ := h
  have hdown : parent ∉ names ++ closing := by
    rw [List.mem_append, not_or]
    refine ⟨fun hmem => (hnames parent hmem).2 rfl, fun hmem => ?_⟩
    rcases hclosing with rfl | rfl
    · cases hmem
    · exact absurd (List.mem_singleton.mp hmem) (by decide)
  rcases place_of_append hsplit with ⟨front, -, hinner⟩ | ⟨behind, hout, -⟩
  · exact absurd (hinner ▸ by simp) hdown
  · have hbefore : ∀ s ∈ before, s = parent := fun s hs =>
      List.eq_of_mem_replicate (hout ▸ List.mem_append_left (parent :: behind) hs)
    refine ⟨?_, hbefore⟩
    rw [← Bool.not_eq_true]
    intro hrooted
    rw [houtwards hrooted] at hout
    simp at hout

end GoesDown

theorem backslash_not_mem_clean (p : Text) : backslash ∉ clean p := by
  by_cases hne : p = []
  · subst hne
    exact List.not_mem_nil
  · have hnormal : backslash ∉ normalize (withSlashes p) := by
      intro h
      rcases mem_normalize h with hmem | hslash | hdot
      · exact backslash_not_mem_withSlashes p hmem
      · exact absurd hslash (by decide)
      · exact absurd hdot (by decide)
    rcases clean_eq hne with hclean | ⟨hclean, -⟩
    · rwa [hclean]
    · rw [hclean]
      exact List.not_mem_append hnormal (by decide)

theorem isClean_of_current (hbackslash : backslash ∉ p) (hrelative : isAbsolute p = false)
    (hbelow : belowRoot p = [current] ∨ belowRoot p = [current, []]) : IsClean p := by
  have hcases : ∀ {before after : List Text} {s : Text}, belowRoot p = before ++ s :: after →
      (s = current ∧ before = [] ∧ (after = [] ∨ after = [[]])) ∨ (s = [] ∧ after = []) := by
    intro before after s hsplit
    rcases before with _ | ⟨first, before⟩
    · rcases hbelow with hbelow | hbelow <;> rw [hbelow] at hsplit <;>
        obtain ⟨rfl, rfl⟩ := List.cons.inj hsplit <;> simp
    · rcases hbelow with hbelow | hbelow <;> rw [hbelow] at hsplit <;>
        simp [List.cons_eq_append_iff] at hsplit
      exact Or.inr ⟨hsplit.2.2.1, hsplit.2.2.2⟩
  refine ⟨hbackslash, fun hsplit => ?_, fun hsplit => ?_, fun hsplit => ?_⟩
  · rcases hcases hsplit with ⟨hcurrent, -⟩ | ⟨-, hafter⟩
    · cases hcurrent
    · exact hafter
  · rcases hcases hsplit with ⟨-, hbefore⟩ | ⟨hnil, -⟩
    · exact ⟨hrelative, hbefore⟩
    · cases hnil
  · rcases hcases hsplit with ⟨hcurrent, -⟩ | ⟨hnil, -⟩
    · exact absurd hcurrent (by decide)
    · cases hnil

theorem GoesDown.isClean (hbackslash : backslash ∉ p)
    (h : GoesDown (isAbsolute p) (belowRoot p)) : IsClean p where
  no_backslash := hbackslash
  of_empty := h.eq_nil_of_empty
  of_current hsplit := absurd (hsplit ▸ by simp) h.current_not_mem
  of_parent := h.of_parent

theorem isClean_clean (p : Text) : IsClean (clean p) := by
  by_cases hne : p = []
  · subst hne
    have hdown : GoesDown false [[]] :=
      @GoesDown.intro false 0 [] [[]] (fun _ => rfl) (by simp) (Or.inr rfl)
    exact GoesDown.isClean List.not_mem_nil hdown
  · have hbackslash := backslash_not_mem_clean p
    rcases belowRoot_clean hne with ⟨hrelative, hbelow⟩ | hdown
    · exact isClean_of_current hbackslash hrelative hbelow
    · exact hdown.isClean hbackslash

/-! ## Paths of the form are clean -/

/-- A stack is written down as it was pushed when nothing on it is taken back. -/
theorem foldl_of_outwards_first (hproper : ∀ s ∈ segments, Proper s)
    (hparent : ∀ before after, segments = before ++ parent :: after →
      rooted = false ∧ ∀ s ∈ before, s = parent) :
    segments.foldl (pushSegment rooted) [] = segments.reverse := by
  induction segments using List.reverseRecOn with
  | nil => rfl
  | append_singleton segments segment ih =>
      obtain ⟨hsegments, hsegment⟩ := List.forall_mem_append.mp hproper
      have hbefore : ∀ before after, segments = before ++ parent :: after →
          rooted = false ∧ ∀ s ∈ before, s = parent := by
        rintro before after rfl
        exact hparent before (after ++ [segment]) (by simp)
      obtain ⟨hnil, hcurrent, -⟩ := hsegment segment (List.mem_singleton_self segment)
      rw [List.foldl_append, ih hsegments hbefore, List.reverse_append, List.foldl_cons,
        List.foldl_nil]
      by_cases hup : segment = parent
      · subst hup
        obtain ⟨rfl, hall⟩ := hparent segments [] rfl
        cases hstack : segments.reverse with
        | nil => rfl
        | cons top below =>
            have htop : top = parent :=
              hall top (List.mem_reverse.mp (hstack ▸ List.mem_cons_self))
            rw [htop, pushSegment_parent_parent]
            rfl
      · exact pushSegment_of_name (not_or.mpr ⟨hnil, hcurrent⟩) hup

theorem foldl_of_areIdle {stack : List Text} (h : AreIdle segments) :
    segments.foldl (pushSegment rooted) stack = stack := by
  induction segments with
  | nil => rfl
  | cons segment rest ih =>
      obtain ⟨hsegment, hrest⟩ := List.forall_mem_cons.mp h
      rw [List.foldl_cons, pushSegment_of_stay hsegment, ih hrest]

/-- The segments of a clean path, and the empty one behind a closing slash. -/
theorem IsClean.exists_segments (h : IsClean p) :
    ∃ segments closing, belowRoot p = segments ++ closing ∧ (closing = [] ∨ closing = [[]])
      ∧ ∀ s ∈ segments, s ≠ [] := by
  obtain ⟨init, last, hlast⟩ : ∃ init last, belowRoot p = init ++ [last] :=
    ⟨_, _, (List.dropLast_append_getLast (Text.split_ne_nil slash _)).symm⟩
  have hinit : ∀ s ∈ init, s ≠ [] := by
    rintro s hs rfl
    obtain ⟨before, after, rfl⟩ := List.append_of_mem hs
    rw [List.append_assoc, List.cons_append] at hlast
    exact absurd (h.of_empty hlast) (List.append_ne_nil_of_right_ne_nil after (by simp))
  by_cases hnil : last = []
  · exact ⟨init, [[]], by rw [hlast, hnil], Or.inr rfl, hinit⟩
  · refine ⟨init ++ [last], [], by rw [hlast, List.append_nil], Or.inl rfl, ?_⟩
    exact List.forall_mem_append.mpr ⟨hinit, fun s hs => List.mem_singleton.mp hs ▸ hnil⟩

theorem normalSegments_of_belowRoot {closing : List Text}
    (hbelow : belowRoot p = segments ++ closing) (hclosing : AreIdle closing)
    (hproper : ∀ s ∈ segments, Proper s)
    (hparent : ∀ before after, segments = before ++ parent :: after →
      rooted = false ∧ ∀ s ∈ before, s = parent) :
    normalSegments rooted (Text.split slash p) = segments := by
  have hroot : AreIdle (List.replicate (rootSlashes p) []) := fun s hs =>
    Or.inl (List.eq_of_mem_replicate hs)
  have hsplit : Text.split slash p = List.replicate (rootSlashes p) [] ++ (segments ++ closing) := by
    rw [← hbelow, belowRoot, ← FileTree.split_replicate_append, replicate_append_drop]
  rw [normalSegments, hsplit, List.foldl_append, foldl_of_areIdle hroot, List.foldl_append,
    foldl_of_outwards_first hproper hparent, foldl_of_areIdle hclosing, List.reverse_reverse]

theorem join_belowRoot (p : Text) :
    List.replicate (rootSlashes p) slash ++ Text.join [slash] (belowRoot p) = p := by
  rw [belowRoot, Text.join_split, replicate_append_drop]

theorem clean_eq_self_of_segments {closing : List Text} (hne : p ≠ []) (hbackslash : backslash ∉ p)
    (hbelow : belowRoot p = segments ++ closing) (hclosing : closing = [] ∨ closing = [[]])
    (hproper : ∀ s ∈ segments, Proper s)
    (hnormal : normalSegments (0 < rootSlashes p) (Text.split slash p) = segments) : clean p = p := by
  have hjoin := join_belowRoot p
  have hnormalize : ∀ path, List.replicate (rootSlashes p) slash ++ Text.join [slash] segments = path →
      path ≠ [] → normalize p = path := by
    rintro path rfl hpath
    rw [normalize, hnormal]
    exact if_neg hpath
  rw [clean_eq_if hne, withSlashes_of_not_mem hbackslash]
  by_cases hclosed : closing = [[]] ∧ segments ≠ []
  · obtain ⟨rfl, hsegments⟩ := hclosed
    rw [hbelow, Text.join_append_singleton hsegments, ← List.append_assoc] at hjoin
    have hopen := not_isDirectoryText_join hsegments hproper (List.replicate (rootSlashes p) slash)
    have hdirectory : isDirectoryText p = true := isDirectoryText_iff.mpr ⟨_, hjoin⟩
    have hbody : Text.join [slash] segments ≠ [] := mt (join_eq_nil_iff hproper).mp hsegments
    rw [hnormalize _ rfl (List.append_ne_nil_of_right_ne_nil _ hbody), hopen, hdirectory]
    exact hjoin
  · -- The closing slash is one of the root, if there is one.
    have hsame : Text.join [slash] (segments ++ closing) = Text.join [slash] segments := by
      rcases hclosing with rfl | rfl
      · rw [List.append_nil]
      · rw [not_and_not_right.mp hclosed rfl]
        rfl
    rw [hbelow, hsame] at hjoin
    rw [hnormalize p hjoin hne, Bool.and_not_self]
    rfl

theorem clean_eq_self (h : IsClean p) : clean p = p := by
  by_cases hne : p = []
  · rw [hne]
    rfl
  by_cases hcurrent : current ∈ belowRoot p
  · obtain ⟨before, after, hsplit⟩ := List.append_of_mem hcurrent
    obtain ⟨hrelative, rfl, hafter⟩ := h.of_current hsplit
    have hjoin := join_belowRoot p
    rw [hsplit, rootSlashes_of_relative hrelative] at hjoin
    rcases hafter with rfl | rfl <;> rw [← hjoin] <;> decide
  · obtain ⟨segments, closing, hbelow, hclosing, hfull⟩ := h.exists_segments
    have hproper : ∀ s ∈ segments, Proper s := by
      intro s hs
      have hmem : s ∈ belowRoot p := hbelow ▸ List.mem_append_left closing hs
      exact ⟨hfull s hs, fun hs => hcurrent (hs ▸ hmem), Text.not_mem_of_mem_split hmem⟩
    have hidle : AreIdle closing := by
      rcases hclosing with rfl | rfl
      · exact areIdle_nil
      · exact areIdle_empty
    have hparent : ∀ before after, segments = before ++ parent :: after →
        decide (0 < rootSlashes p) = false ∧ ∀ s ∈ before, s = parent := by
      rintro before after rfl
      rw [List.append_assoc, List.cons_append] at hbelow
      obtain ⟨hrelative, hbefore⟩ := h.of_parent hbelow
      exact ⟨by rw [rootSlashes_of_relative hrelative]; rfl, hbefore⟩
    have hnormal := normalSegments_of_belowRoot hbelow hidle hproper hparent
    exact clean_eq_self_of_segments hne h.no_backslash hbelow hclosing hproper hnormal

/-- Cleaning changes exactly the paths that are not clean. -/
theorem clean_eq_self_iff : clean p = p ↔ IsClean p :=
  ⟨fun h => h ▸ isClean_clean p, clean_eq_self⟩

/-! ## Where clean paths lead -/

/-- The normal form depends on the root and on what the segments leave on the stack. -/
theorem normalize_eq_of_pushAll {q : Text} (hroot : rootSlashes p = rootSlashes q)
    (hpush : ∀ rooted, pushAll rooted [] p = pushAll rooted [] q) : normalize p = normalize q := by
  have hsegments : ∀ rooted, normalSegments rooted (Text.split slash p) =
      normalSegments rooted (Text.split slash q) := fun rooted => congrArg List.reverse (hpush rooted)
  rw [normalize, normalize, hroot, hsegments]

theorem absolute_clean (workingDirectory p : Text) :
    absolute workingDirectory (clean p) = absolute workingDirectory (withSlashes p) := by
  have hsame := isAbsolute_clean p
  rw [absolute, absolute]
  cases h : isAbsolute (withSlashes p) with
  | true =>
      rw [h] at hsame
      rw [append, append, if_pos hsame, if_pos h, normalize_clean h]
  | false =>
      rw [h] at hsame
      rw [append_of_relative hsame, append_of_relative h]
      refine normalize_eq_of_pushAll ?_ fun rooted => ?_
      · rw [rootSlashes_append hsame, rootSlashes_append h]
      · by_cases hne : workingDirectory = []
        · subst hne
          exact pushAll_clean h
        · obtain ⟨base, hbase⟩ := exists_append_nil hne
          rw [hbase, List.append_assoc, List.append_assoc, List.singleton_append,
            List.singleton_append, pushAll_append_slash, pushAll_append_slash, pushAll_clean h]

theorem isDirectoryText_clean (h : isDirectoryText (withSlashes p) = true) :
    isDirectoryText (clean p) = true := by
  by_cases hne : p = []
  · subst hne
    cases h
  · rw [clean_eq_if hne, h]
    split
    · exact isDirectoryText_iff.mpr (List.suffix_append _ _)
    · rename_i hclosed
      simpa using hclosed

/-- Cleaning a path gives a clean path of the same absolute path, and a second time changes nothing. -/
theorem clean_isNormal (p : Text) :
    clean (clean p) = clean p
      ∧ (∀ workingDirectory, absolute workingDirectory (clean p) =
          absolute workingDirectory (withSlashes p))
      ∧ IsClean (clean p)
      ∧ (p.getLast? = some slash ∨ p.getLast? = some backslash →
          (clean p).getLast? = some slash) := by
  refine ⟨clean_eq_self (isClean_clean p), fun w => absolute_clean w p, isClean_clean p, fun hlast => ?_⟩
  obtain ⟨c, hc, hclosed⟩ : ∃ c, (c = slash ∨ c = backslash) ∧ p.getLast? = some c :=
    hlast.elim (fun h => ⟨slash, Or.inl rfl, h⟩) fun h => ⟨backslash, Or.inr rfl, h⟩
  obtain ⟨before, rfl⟩ := List.getLast?_eq_some_iff.mp hclosed
  have hdirectory : isDirectoryText (withSlashes (before ++ [c])) = true := by
    rw [withSlashes_concat hc, isDirectoryText_iff]
    exact List.suffix_append _ _
  obtain ⟨rest, hrest⟩ := isDirectoryText_iff.mp (isDirectoryText_clean hdirectory)
  rw [← hrest, List.getLast?_concat]

end Path

end ConfigLocator
