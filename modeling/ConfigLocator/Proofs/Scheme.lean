import Mathlib.Data.List.TakeWhile
import ConfigLocator.Proofs.Location
import ConfigLocator.Store

/-!
# Locations behind a directory

A directory text ends with a slash. What stands behind it decides neither whether the location has a
scheme (`hasScheme_append`) nor which one (`Text.startsWith_append`), so an entry in a supported
directory is supported (`isSupported_append`). A supported location outside packages always has a
handle (`Store.handle_eq_file`).
-/

namespace ConfigLocator

namespace Text

theorem mem_of_endsWith {c : Nat} {t : Text} (h : endsWith t [c] = true) : c ∈ t :=
  (endsWith_iff.mp h).subset (List.mem_singleton.mpr rfl)

/-- A leading piece without `c` is found before the first `c` or not at all. -/
theorem startsWith_append {c : Nat} {t head : Text} (ht : c ∈ t) (hhead : c ∉ head) (more : Text) :
    startsWith (t ++ more) head = startsWith t head := by
  rw [Bool.eq_iff_iff, startsWith_iff, startsWith_iff]
  constructor
  · intro h
    rcases List.prefix_or_prefix_of_prefix h (List.prefix_append t more) with hpre | hpre
    · exact hpre
    · exact absurd (hpre.subset ht) hhead
  · exact fun h => h.trans (List.prefix_append t more)

theorem dropLeading?_eq_none_iff {head t : Text} :
    dropLeading? head t = none ↔ startsWith t head = false := by
  cases h : dropLeading? head t with
  | none =>
      rw [← Bool.not_eq_true, startsWith_iff]
      refine iff_of_true rfl fun hpre => ?_
      obtain ⟨rest, rfl⟩ := hpre
      rw [dropLeading?_append] at h
      cases h
  | some rest =>
      rw [eq_append_of_dropLeading? h, ← Bool.not_eq_true, startsWith_iff]
      exact iff_of_false (by simp) fun hnot => hnot (List.prefix_append head rest)

theorem dropLeading_append {c : Nat} {t head : Text} (ht : c ∈ t) (hhead : c ∉ head) (more : Text) :
    dropLeading (t ++ more) head = dropLeading t head ++ more := by
  have hstarts := startsWith_append ht hhead more
  cases hhas : startsWith t head with
  | false =>
      rw [hhas] at hstarts
      rw [dropLeading, dropLeading, dropLeading?_eq_none_iff.mpr hhas,
        dropLeading?_eq_none_iff.mpr hstarts]
      rfl
  | true =>
      obtain ⟨rest, rfl⟩ := startsWith_iff.mp hhas
      rw [List.append_assoc, dropLeading, dropLeading, dropLeading?_append, dropLeading?_append]
      rfl

/-- What has no `c` and begins a text begins it before the first `c`. -/
theorem prefix_of_prefix_append_cons {c : Nat} {head s t : Text} (h : head <+: s ++ c :: t)
    (hc : c ∉ head) : head <+: s := by
  rcases List.prefix_or_prefix_of_prefix h (List.prefix_append s (c :: t)) with hs | ⟨more, rfl⟩
  · exact hs
  · have hmore : more <+: c :: t := (List.prefix_append_right_inj s).mp h
    cases more with
    | nil => simp
    | cons d rest =>
        obtain ⟨rfl, -⟩ := List.cons_prefix_cons.mp hmore
        exact absurd (by simp) hc

end Text

/-! ## Schemes -/

/-- Letters, digits and wildcards. -/
def isSchemePart (c : Nat) : Bool := Text.isAsciiLetter c || Text.isAsciiDigit c || c == wildcard

def colon : Nat := ':'

/-- A colon, and no line feed behind it except at the very end. -/
def endsScheme : Text → Bool
  | [] => false
  | c :: body => c == ':' && (body.dropWhile (· != lineFeed)).length ≤ 1

theorem hasScheme_cons (first : Nat) (rest : Text) :
    hasScheme (first :: rest) =
      (Text.isAsciiLetter first && endsScheme (rest.dropWhile isSchemePart)) := rfl

structure IsScheme (scheme : Text) : Prop where
  ne_nil : scheme ≠ []
  head : ∀ c ∈ scheme.head?, Text.isAsciiLetter c = true
  parts : ∀ c ∈ scheme, isSchemePart c = true

theorem IsScheme.not_mem {scheme : Text} (h : IsScheme scheme) {c : Nat}
    (hc : isSchemePart c = false) : c ∉ scheme := by
  intro hmem
  rw [h.parts c hmem] at hc
  cases hc

theorem IsScheme.colon_not_mem {scheme : Text} (h : IsScheme scheme) : colon ∉ scheme :=
  h.not_mem (by decide)

theorem IsScheme.dot_not_mem {scheme : Text} (h : IsScheme scheme) : Path.dot ∉ scheme :=
  h.not_mem (by decide)

theorem exists_of_hasScheme {t : Text} (h : hasScheme t = true) :
    ∃ scheme body, IsScheme scheme ∧ t = scheme ++ colon :: body := by
  cases t with
  | nil => cases h
  | cons first rest =>
      rw [hasScheme_cons, Bool.and_eq_true] at h
      obtain ⟨hfirst, h⟩ := h
      have hsplit := List.takeWhile_append_dropWhile (p := isSchemePart) (l := rest)
      cases hbody : rest.dropWhile isSchemePart with
      | nil =>
          rw [hbody] at h
          cases h
      | cons c body =>
          rw [hbody] at h hsplit
          obtain ⟨hcolon, -⟩ := Bool.and_eq_true_iff.mp h
          obtain rfl : c = colon := eq_of_beq hcolon
          refine ⟨first :: rest.takeWhile isSchemePart, body, ⟨by simp, by simpa using hfirst, ?_⟩, ?_⟩
          · intro c hc
            rcases List.mem_cons.mp hc with rfl | hc
            · simp [isSchemePart, hfirst]
            · exact List.mem_takeWhile_imp hc
          · rw [List.cons_append, hsplit]

theorem IsScheme.hasScheme_append {scheme body : Text} (h : IsScheme scheme)
    (hbody : lineFeed ∉ body) : hasScheme (scheme ++ colon :: body) = true := by
  obtain ⟨first, word, rfl⟩ := List.exists_cons_of_ne_nil h.ne_nil
  have hfirst : Text.isAsciiLetter first = true := h.head first rfl
  have hword : ∀ c ∈ word, isSchemePart c = true := fun c hc => h.parts c (List.mem_cons_of_mem _ hc)
  have hcolon : isSchemePart colon = false := by decide
  have hdrop : (word ++ colon :: body).dropWhile isSchemePart = colon :: body := by
    rw [List.dropWhile_append_of_pos hword, List.dropWhile_cons_of_neg (by simp [hcolon])]
  have hend : body.dropWhile (· != lineFeed) = [] := by
    rw [List.dropWhile_eq_nil_iff]
    intro c hc
    have hne : c ≠ lineFeed := fun heq => hbody (heq ▸ hc)
    simpa using hne
  rw [List.cons_append, hasScheme_cons, hfirst, hdrop, endsScheme, hend]
  rfl

/-- Whether a text has a given scheme is decided before the first colon. -/
theorem IsScheme.startsWith_iff {scheme body : Text} (h : IsScheme scheme) (name : Text)
    (hname : colon ∉ name) :
    Text.startsWith (scheme ++ colon :: body) (name ++ [colon]) = true ↔ name = scheme := by
  rw [Text.startsWith_iff]
  constructor
  · rintro ⟨rest, hrest⟩
    have hbefore : ∀ {t : Text}, colon ∉ t → ∀ more,
        (t ++ colon :: more).takeWhile (· != colon) = t := by
      intro t ht more
      have hall : ∀ c ∈ t, (c != colon) = true := fun c hc => by
        simpa using fun heq : c = colon => ht (heq ▸ hc)
      rw [List.takeWhile_append_of_pos hall, List.takeWhile_cons_of_neg (by simp), List.append_nil]
    rw [List.append_assoc, List.singleton_append] at hrest
    rw [← hbefore hname rest, hrest, hbefore h.colon_not_mem]
  · rintro rfl
    exact ⟨body, by simp⟩

/-- Of two texts with one scheme both are supported or none. -/
theorem IsScheme.isSupported_of {scheme body more : Text} (h : IsScheme scheme)
    (hmore : lineFeed ∉ more) (hsupported : isSupported (scheme ++ colon :: more) = true) :
    isSupported (scheme ++ colon :: body) = true := by
  have hfile : Text.startsWith (scheme ++ colon :: more) fileScheme =
      Text.startsWith (scheme ++ colon :: body) fileScheme := by
    rw [Bool.eq_iff_iff]
    exact (h.startsWith_iff "file" (by decide)).trans
      (h.startsWith_iff "file" (by decide)).symm
  have hpackage : Text.startsWith (scheme ++ colon :: more) packageScheme =
      Text.startsWith (scheme ++ colon :: body) packageScheme := by
    rw [Bool.eq_iff_iff]
    exact (h.startsWith_iff "package" (by decide)).trans
      (h.startsWith_iff "package" (by decide)).symm
  have hdrive : hasDrive (scheme ++ colon :: more) = hasDrive (scheme ++ colon :: body) := by
    obtain ⟨first, word, rfl⟩ := List.exists_cons_of_ne_nil h.ne_nil
    cases word <;> rfl
  rw [isSupported, h.hasScheme_append hmore, Bool.not_true, Bool.or_false, hfile, hpackage,
    hdrive] at hsupported
  rw [isSupported]
  simp only [Bool.or_eq_true] at hsupported ⊢
  tauto

/-- What no scheme can hold is not before the end of one. -/
theorem hasScheme_append {t : Text} {c : Nat} (ht : c ∈ t) (hc : isSchemePart c = false) {more : Text}
    (h : hasScheme (t ++ more) = true) : hasScheme t = true := by
  cases t with
  | nil => cases ht
  | cons first rest =>
      simp only [List.cons_append, hasScheme, Bool.and_eq_true] at h ⊢
      obtain ⟨hletter, h⟩ := h
      have hrest : c ∈ rest := by
        rcases List.mem_cons.mp ht with rfl | hrest
        · simp [isSchemePart, hletter] at hc
        · exact hrest
      refine ⟨hletter, ?_⟩
      rw [List.dropWhile_append] at h
      generalize hp : (fun c => Text.isAsciiLetter c || Text.isAsciiDigit c || c == wildcard) = p at *
      have hne : rest.dropWhile p ≠ [] := by
        rw [ne_eq, List.dropWhile_eq_nil_iff]
        intro hall
        have hpart := hall c hrest
        rw [← hp] at hpart
        exact absurd (hc.symm.trans hpart) (by decide)
      rw [if_neg (by simpa using hne)] at h
      obtain ⟨first, body, hbody⟩ := List.exists_cons_of_ne_nil hne
      rw [hbody] at h ⊢
      simp only [List.cons_append, Bool.and_eq_true, decide_eq_true_eq] at h ⊢
      refine ⟨h.1, le_trans ?_ h.2⟩
      rw [List.dropWhile_append]
      split
      · rename_i hnil
        rw [List.isEmpty_iff.mp hnil]
        exact Nat.zero_le _
      · rw [List.length_append]
        exact Nat.le_add_right _ _

theorem hasDrive_append {t : Text} (h : hasDrive t = true) (more : Text) :
    hasDrive (t ++ more) = true := by
  match t with
  | [] => cases h
  | [_] => cases h
  | _ :: _ :: _ => exact h

theorem isSupported_append {t : Text} (ht : slash ∈ t) (h : isSupported t = true) (more : Text) :
    isSupported (t ++ more) = true := by
  have hscheme : hasScheme t = false → hasScheme (t ++ more) = false := by
    rw [← Bool.not_eq_true, ← Bool.not_eq_true]
    exact mt (hasScheme_append ht (by decide))
  simp only [isSupported, Bool.or_eq_true, Bool.not_eq_true'] at h ⊢
  rw [Text.startsWith_append ht (by decide), Text.startsWith_append ht (by decide)]
  rcases h with (h | h) | h
  · exact Or.inl (Or.inl h)
  · exact Or.inl (Or.inr (hscheme h))
  · exact Or.inr (hasDrive_append h more)

theorem isPattern_append {s t : Text} :
    isPattern (s ++ t) = false ↔ isPattern s = false ∧ isPattern t = false := by
  simp [isPattern]

/-! ## Handles -/

/-- Outside packages a supported location without a wildcard names a path. -/
theorem Store.handle_eq_file {store : Store} {t : Text} (hpattern : isPattern t = false)
    (hsupported : isSupported t = true) (hpackage : Text.startsWith t packageScheme = false) :
    store.handle t = .ok (.file (store.anchor (Path.clean (withoutFileScheme t)))) := by
  rw [handle, if_neg (by simp [hpattern]), if_neg (by simp [hsupported]),
    Text.dropLeading?_eq_none_iff.mpr hpackage]

/-- Only the scheme of packages names a package. -/
theorem Store.startsWith_of_handle_eq_package {store : Store} {t name path : Text}
    (h : store.handle t = .ok (.package name path)) : Text.startsWith t packageScheme = true := by
  cases hpackage : Text.startsWith t packageScheme with
  | true => rfl
  | false =>
      unfold handle at h
      rw [Text.dropLeading?_eq_none_iff.mpr hpackage] at h
      split at h
      · cases h
      · split at h <;> cases h

/-- A path is only named in that way. -/
theorem Store.of_handle_eq_file {store : Store} {t path : Text}
    (h : store.handle t = .ok (.file path)) :
    isPattern t = false ∧ isSupported t = true ∧ Text.startsWith t packageScheme = false
      ∧ path = store.anchor (Path.clean (withoutFileScheme t)) := by
  unfold handle at h
  split at h
  · cases h
  · split at h
    · cases h
    · rename_i hpattern hsupported
      split at h
      · simp only [packageHandle] at h
        split at h <;> cases h
      · rename_i hpackage
        cases h
        exact ⟨by simpa using hpattern, by simpa using hsupported,
          Text.dropLeading?_eq_none_iff.mp hpackage, rfl⟩

end ConfigLocator
