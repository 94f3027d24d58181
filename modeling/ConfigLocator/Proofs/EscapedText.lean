import Mathlib.Data.List.Forall2
import ConfigLocator.Proofs.ContinuedLines

/-!
# Escaped text

The ways to write a character in a key or a value (`Written`): a printable ASCII character without a
meaning of its own stands for itself, the others are written with a backslash, by a letter or by
their code. Each way is a token that no line break and no separator is found in
(`Written.isToken`, `Written.keyLength_append`), and reading gives the character back
(`Written.unescape_append`).
-/

namespace ConfigLocator

/-! ## Four digits -/

/-- A digit of base 16 and what it may be written as. -/
def HexDigit (d c : Nat) : Prop :=
  (d < 10 ∧ c = 0x30 + d) ∨ (10 ≤ d ∧ d < 16 ∧ (c = 0x41 + (d - 10) ∨ c = 0x61 + (d - 10)))

instance (d c : Nat) : Decidable (HexDigit d c) :=
  inferInstanceAs (Decidable (_ ∨ _))

namespace HexDigit

theorem exists_of_lt {d : Nat} (h : d < 16) : ∃ c, HexDigit d c := by
  by_cases hd : d < 10
  · exact ⟨0x30 + d, Or.inl ⟨hd, rfl⟩⟩
  · exact ⟨0x41 + (d - 10), Or.inr ⟨by omega, h, Or.inl rfl⟩⟩

theorem exists_four_of_lt {n : Nat} (h : n < 0x10000) :
    ∃ w x y z a b c d, HexDigit w a ∧ HexDigit x b ∧ HexDigit y c ∧ HexDigit z d ∧
      ((w * 16 + x) * 16 + y) * 16 + z = n := by
  obtain ⟨a, ha⟩ := exists_of_lt (d := n / 0x1000) (by omega)
  obtain ⟨b, hb⟩ := exists_of_lt (d := n / 0x100 % 0x10) (by omega)
  obtain ⟨c, hc⟩ := exists_of_lt (d := n / 0x10 % 0x10) (by omega)
  obtain ⟨d, hd⟩ := exists_of_lt (d := n % 0x10) (by omega)
  exact ⟨_, _, _, _, a, b, c, d, ha, hb, hc, hd, by omega⟩

variable {d c : Nat}

theorem lt (h : HexDigit d c) : d < 16 := by
  rcases h with ⟨hd, _⟩ | ⟨_, hd, _⟩
  · omega
  · exact hd

theorem isAlphanumeric (h : HexDigit d c) :
    (0x30 ≤ c ∧ c ≤ 0x39) ∨ (0x41 ≤ c ∧ c ≤ 0x46) ∨ (0x61 ≤ c ∧ c ≤ 0x66) := by
  unfold HexDigit at h
  omega

theorem digitValue? (h : HexDigit d c) : Numeral.digitValue? c = some d := by
  unfold Numeral.digitValue?
  rcases h with ⟨hd, rfl⟩ | ⟨hd, hlt, rfl | rfl⟩
  · rw [if_pos (by omega)]
    congr 1
    omega
  · rw [if_neg (by omega), if_neg (by omega), if_pos (by omega)]
    congr 1
    omega
  · rw [if_neg (by omega), if_pos (by omega)]
    congr 1
    omega

end HexDigit

namespace Numeral

theorem toAscii?_of_lt {t : Text} (h : ∀ c ∈ t, c < 0x7F) : toAscii? t = some t := by
  unfold toAscii?
  induction t with
  | nil => rfl
  | cons c t ih =>
      have hc : c < 0x7F := h c (List.mem_cons_self ..)
      rw [List.mapM_cons, ih fun d hd => h d (List.mem_cons_of_mem c hd), if_pos hc]
      rfl

theorem readDigits_cons {base value d c : Nat} {gap : Bool} (hunder : c ≠ '_')
    (hvalue : digitValue? c = some d) (hd : d < base) (t : Text) :
    readDigits base value gap (c :: t) = readDigits base (value * base + d) false t := by
  rw [readDigits, if_neg hunder, hvalue]
  exact if_pos hd

theorem readDigits_hexDigit {value d c : Nat} {gap : Bool} (h : HexDigit d c) (t : Text) :
    readDigits 16 value gap (c :: t) = readDigits 16 (value * 16 + d) false t := by
  have hrange := h.isAlphanumeric
  refine readDigits_cons ?_ h.digitValue? h.lt t
  rintro rfl
  revert hrange
  decide

theorem read?_four_digits {w x y z a b c d : Nat} (ha : HexDigit w a) (hb : HexDigit x b)
    (hc : HexDigit y c) (hd : HexDigit z d) :
    read? 16 [a, b, c, d] = some (((w * 16 + x) * 16 + y) * 16 + z : Nat) := by
  have hrange : ∀ e ∈ [a, b, c, d],
      (0x30 ≤ e ∧ e ≤ 0x39) ∨ (0x41 ≤ e ∧ e ≤ 0x46) ∨ (0x61 ≤ e ∧ e ≤ 0x66) := by
    intro e he
    simp only [List.mem_cons, List.not_mem_nil, or_false] at he
    rcases he with rfl | rfl | rfl | rfl
    · exact ha.isAlphanumeric
    · exact hb.isAlphanumeric
    · exact hc.isAlphanumeric
    · exact hd.isAlphanumeric
  have hascii : toAscii? [a, b, c, d] = some [a, b, c, d] := by
    refine toAscii?_of_lt fun e he => ?_
    have := hrange e he
    omega
  have htrim : Text.trim isAsciiBlank [a, b, c, d] = [a, b, c, d] := by
    refine Text.trim_eq_self fun e he => ?_
    have := hrange e he
    simp only [isAsciiBlank, Bool.or_eq_false_iff, Bool.and_eq_false_iff, decide_eq_false_iff_not,
      beq_eq_false_iff_ne]
    omega
  have hsign : sign [a, b, c, d] = (false, [a, b, c, d]) := by
    have hfirst := ha.isAlphanumeric
    have hminus : a ≠ '-' := by rintro rfl; revert hfirst; decide
    have hplus : a ≠ '+' := by rintro rfl; revert hfirst; decide
    rw [sign, if_neg hminus, if_neg hplus]
  have hmark : dropBaseMark 16 [a, b, c, d] = [a, b, c, d] := by
    have hsecond := hb.isAlphanumeric
    have hmarks : ∀ e ∈ baseMarks 16, e = 0x58 ∨ e = 0x78 := by decide
    refine if_neg fun h => ?_
    have := hmarks b (List.contains_iff_mem.mp h.2)
    omega
  unfold read?
  rw [hascii]
  simp only [Option.bind_eq_bind, Option.bind_some, htrim, hsign, hmark]
  rw [readDigits_hexDigit ha, readDigits_hexDigit hb, readDigits_hexDigit hc,
    readDigits_hexDigit hd]
  simp [readDigits]

end Numeral

namespace Properties

/-! ## Ways to write a character -/

/-- Characters that need a backslash to stand for themselves. -/
def marks : Text := "\\=:#! "

/-- Control characters and the letters that stand for them behind a backslash. -/
def controls : List (Nat × Nat) := [('\t', 't'), ('\n', 'n'), ('\r', 'r'), (0x0C, 'f')]

def IsPlain (c : Nat) : Prop := 0x21 ≤ c ∧ c ≤ 0x7E ∧ c ∉ marks

instance (c : Nat) : Decidable (IsPlain c) :=
  inferInstanceAs (Decidable (_ ∧ _ ∧ _))

/-- What a character may be written as. -/
inductive Written : Nat → Text → Prop
  | plain {c : Nat} (h : IsPlain c) : Written c [c]
  | marked {c : Nat} (h : c ∈ marks) : Written c [backslash, c]
  | control {c letter : Nat} (h : (c, letter) ∈ controls) : Written c [backslash, letter]
  | code {w x y z a b c d : Nat} (ha : HexDigit w a) (hb : HexDigit x b) (hc : HexDigit y c)
      (hd : HexDigit z d) :
      Written (((w * 16 + x) * 16 + y) * 16 + z) [backslash, 'u', a, b, c, d]

theorem exists_written {c : Nat} (h : c < 0x10000) : ∃ w, Written c w := by
  obtain ⟨_, _, _, _, _, _, _, _, ha, hb, hc, hd, rfl⟩ := HexDigit.exists_four_of_lt h
  exact ⟨_, .code ha hb hc hd⟩

theorem marks_printable : ∀ c ∈ marks, 0x20 ≤ c ∧ c ≤ 0x7E := by decide

theorem controls_printable : ∀ p ∈ controls, 0x61 ≤ p.2 ∧ p.2 ≤ 0x7A := by decide

theorem IsPlain.ne_backslash {c : Nat} (h : IsPlain c) : c ≠ backslash := by
  rintro rfl
  exact h.2.2 (by decide)

/-- A character that starts neither white space nor a separator nor a comment. -/
structure StartsText (c : Nat) : Prop where
  isBlank : isBlank c = false
  isSeparator : isSeparator c = false
  isComment : isComment [c] = false

theorem startsText_backslash : StartsText backslash := ⟨by decide, by decide, by decide⟩

theorem IsPlain.startsText {c : Nat} (h : IsPlain c) : StartsText c := by
  obtain ⟨hlower, hupper, hmarks⟩ := h
  have hne : ∀ e ∈ marks, c ≠ e := fun e he hc => hmarks (hc ▸ he)
  have hequals : c ≠ '=' := hne '=' (by decide)
  have hcolon : c ≠ ':' := hne ':' (by decide)
  have hnumber : c ≠ '#' := hne '#' (by decide)
  have hbang : c ≠ '!' := hne '!' (by decide)
  have hspace : c ≠ ' ' := hne ' ' (by decide)
  have htab : c ≠ '\t' := by rintro rfl; revert hlower; decide
  have hfeed : c ≠ 0x0C := by omega
  refine ⟨isBlank_eq_false hlower hupper, ?_, ?_⟩
  · simp only [Properties.isSeparator, isGap, Bool.or_eq_false_iff, beq_eq_false_iff_ne]
    exact ⟨⟨hequals, hcolon⟩, ⟨hspace, htab⟩, hfeed⟩
  · simp only [Properties.isComment, Bool.or_eq_false_iff, beq_eq_false_iff_ne]
    exact ⟨hnumber, hbang⟩

theorem isPlain_of_hexDigit {d c : Nat} (h : HexDigit d c) : IsPlain c := by
  have hrange := h.isAlphanumeric
  have hmarks : ∀ e ∈ marks, e < 0x30 ∨ (0x39 < e ∧ e < 0x41) ∨ (0x46 < e ∧ e < 0x61) := by decide
  refine ⟨by omega, by omega, fun hc => ?_⟩
  have := hmarks c hc
  omega

namespace Written

variable {c : Nat} {w : Text}

theorem exists_startsText (h : Written c w) :
    ∃ first rest, w = first :: rest ∧ StartsText first := by
  cases h with
  | plain h => exact ⟨c, [], rfl, h.startsText⟩
  | marked h => exact ⟨_, _, rfl, startsText_backslash⟩
  | control h => exact ⟨_, _, rfl, startsText_backslash⟩
  | code ha hb hc hd => exact ⟨_, _, rfl, startsText_backslash⟩

theorem printable (h : Written c w) : ∀ d ∈ w, 0x20 ≤ d ∧ d ≤ 0x7E := by
  have hbackslash : 0x20 ≤ backslash ∧ backslash ≤ 0x7E := by decide
  intro d hd
  cases h with
  | plain h =>
      rw [List.mem_singleton.mp hd]
      exact ⟨by have := h.1; omega, h.2.1⟩
  | marked h =>
      rcases List.mem_cons.mp hd with rfl | hd
      · exact hbackslash
      · rw [List.mem_singleton.mp hd]
        exact marks_printable c h
  | @control _ letter h =>
      have hletter := controls_printable (c, letter) h
      rcases List.mem_cons.mp hd with rfl | hd
      · exact hbackslash
      · rw [List.mem_singleton.mp hd]
        omega
  | code ha hb hc hd' =>
      have hu : 0x20 ≤ ('u' : Nat) ∧ ('u' : Nat) ≤ 0x7E := by decide
      simp only [List.mem_cons, List.not_mem_nil, or_false] at hd
      rcases hd with rfl | rfl | rfl | rfl | rfl | rfl
      · exact hbackslash
      · exact hu
      · have := ha.isAlphanumeric; omega
      · have := hb.isAlphanumeric; omega
      · have := hc.isAlphanumeric; omega
      · have := hd'.isAlphanumeric; omega

theorem isContinued (h : Written c w) : isContinued w = false := by
  cases h with
  | plain h => exact isContinued_concat_of_ne h.ne_backslash []
  | marked h =>
      by_cases hc : c = backslash
      · rw [hc]
        rfl
      · exact isContinued_concat_of_ne hc [backslash]
  | @control _ letter h =>
      have hletter : 0x61 ≤ letter := (controls_printable (c, letter) h).1
      have hbackslash : backslash < 0x61 := by decide
      exact isContinued_concat_of_ne (by omega) [backslash]
  | code ha hb hc hd =>
      exact isContinued_concat_of_ne (isPlain_of_hexDigit hd).ne_backslash [backslash, 'u', _, _, _]

theorem isToken (h : Written c w) : IsToken w where
  printable d hd := Or.inr (h.printable d hd)
  closed := h.isContinued

/-! ## Reading -/

theorem keyLength_cons {c : Nat} (hc : c ≠ backslash) (hsep : isSeparator c = false) (t : Text) :
    keyLength (c :: t) = keyLength t + 1 := by
  cases t with
  | nil => simp [keyLength, hsep]
  | cons d t => rw [keyLength, if_neg hc, if_neg (by simp [hsep])]

theorem keyLength_append (h : Written c w) (t : Text) :
    keyLength (w ++ t) = keyLength t + w.length := by
  have hplain : ∀ {e : Nat}, IsPlain e → ∀ s, keyLength (e :: s) = keyLength s + 1 :=
    fun he s => keyLength_cons he.ne_backslash he.startsText.isSeparator s
  cases h with
  | plain h => exact hplain h t
  | marked h => rfl
  | control h => rfl
  | @code _ _ _ _ a b c d ha hb hc hd =>
      have hescape : keyLength ([backslash, 'u', a, b, c, d] ++ t) =
          keyLength (a :: b :: c :: d :: t) + 2 := rfl
      rw [hescape, hplain (isPlain_of_hexDigit ha), hplain (isPlain_of_hexDigit hb),
        hplain (isPlain_of_hexDigit hc), hplain (isPlain_of_hexDigit hd)]
      rfl

theorem unescape_cons {c : Nat} (hc : c ≠ backslash) (t : Text) :
    unescape (c :: t) = (unescape t).map (c :: ·) := by
  cases t with
  | nil => rfl
  | cons d t =>
      rw [unescape.eq_def (c :: d :: t)]
      exact if_pos hc

theorem unescape_escape {letter : Nat} (h : letter ≠ 'u') (t : Text) :
    unescape (backslash :: letter :: t) = (unescape t).map (escaped letter :: ·) := by
  match t with
  | w :: x :: y :: z :: after =>
      rw [unescape, if_neg (by simp), if_neg h]
      rfl
  | [] => rfl
  | [_] => rfl
  | [_, _] => rfl
  | [_, _, _] => rfl

theorem unescape_append (h : Written c w) (t : Text) :
    unescape (w ++ t) = (unescape t).map (c :: ·) := by
  cases h with
  | plain h => exact unescape_cons h.ne_backslash t
  | marked h =>
      have hc : c ≠ 'u' ∧ escaped c = c := by
        have : ∀ e ∈ marks, e ≠ 'u' ∧ escaped e = e := by decide
        exact this c h
      have hread := unescape_escape hc.1 t
      rw [hc.2] at hread
      exact hread
  | @control _ letter h =>
      have hc : letter ≠ 'u' ∧ escaped letter = c := by
        have : ∀ p ∈ controls, p.2 ≠ 'u' ∧ escaped p.2 = p.1 := by decide
        exact this (c, letter) h
      have hread := unescape_escape hc.1 t
      rw [hc.2] at hread
      exact hread
  | @code w x y z a b c d ha hb hc hd =>
      have hcode : characterOf [a, b, c, d] = .ok (((w * 16 + x) * 16 + y) * 16 + z) := by
        rw [characterOf, codeBase, Numeral.read?_four_digits ha hb hc hd]
        rfl
      have hstep : unescape ([backslash, 'u', a, b, c, d] ++ t) =
          (do return (← characterOf [a, b, c, d]) :: (← unescape t)) := rfl
      rw [hstep, hcode]
      rfl

end Written

/-! ## Whole texts -/

section Texts

variable {t : Text} {tokens : List Text}

theorem exists_forall₂_written (h : ∀ c ∈ t, c < 0x10000) :
    ∃ tokens, List.Forall₂ Written t tokens := by
  induction t with
  | nil => exact ⟨[], .nil⟩
  | cons c t ih =>
      obtain ⟨w, hw⟩ := exists_written (h c (List.mem_cons_self ..))
      obtain ⟨tokens, htokens⟩ := ih fun d hd => h d (List.mem_cons_of_mem c hd)
      exact ⟨w :: tokens, .cons hw htokens⟩

theorem forall₂_written_of_isPlain (h : ∀ c ∈ t, IsPlain c) :
    List.Forall₂ Written t (t.map ([·])) := by
  induction t with
  | nil => exact .nil
  | cons c t ih =>
      have hrest : ∀ d ∈ t, IsPlain d := fun d hd => h d (List.mem_cons_of_mem c hd)
      exact .cons (.plain (h c (List.mem_cons_self ..))) (ih hrest)

theorem isToken_of_written (h : List.Forall₂ Written t tokens) : ∀ w ∈ tokens, IsToken w := by
  induction h with
  | nil => simp
  | cons hfirst _ ih =>
      intro w hw
      rcases List.mem_cons.mp hw with rfl | hw
      · exact hfirst.isToken
      · exact ih w hw

theorem startsText_head?_flatten (h : List.Forall₂ Written t tokens) :
    ∀ c ∈ tokens.flatten.head?, StartsText c := by
  cases h with
  | nil => simp
  | cons hfirst _ =>
      obtain ⟨first, rest, rfl, hstarts⟩ := hfirst.exists_startsText
      intro c hc
      rw [← Option.some.inj hc]
      exact hstarts

theorem keyLength_flatten_append (h : List.Forall₂ Written t tokens) (s : Text) :
    keyLength (tokens.flatten ++ s) = keyLength s + tokens.flatten.length := by
  induction h with
  | nil => rfl
  | cons hfirst _ ih =>
      rw [List.flatten_cons, List.append_assoc, hfirst.keyLength_append, ih, List.length_append]
      omega

theorem unescape_flatten (h : List.Forall₂ Written t tokens) :
    unescape tokens.flatten = .ok t := by
  induction h with
  | nil => rfl
  | cons hfirst _ ih =>
      rw [List.flatten_cons, hfirst.unescape_append, ih]
      rfl

end Texts

end Properties

end ConfigLocator
