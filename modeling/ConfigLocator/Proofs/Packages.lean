import ConfigLocator.Proofs.ContinuedLines
import ConfigLocator.Proofs.Following

/-!
# Locations in packages

A location of the package scheme is cleaned before it is split into the name of the package and the
path inside it. What leads outwards in a clean path stands in front, so the name takes it
(`Path.exists_clean_eq`), and a name that starts with a dot is no package that can be asked for. Behind any other name the path goes down only, and whatever it leads to lies in the directory of
the package (`Store.handle_in_package`).
-/

namespace ConfigLocator

namespace Path

/-! ## Outer slashes -/

theorem head?_ne_slash {p : Text} (h : isAbsolute p = false) : ∀ c ∈ p.head?, (c == slash) = false := by
  intro c hc
  cases p with
  | nil => cases hc
  | cons d rest =>
      obtain rfl := Option.some.inj hc
      rw [beq_eq_false_iff_ne]
      rintro rfl
      exact Bool.false_ne_true (h.symm.trans (Text.startsWith_iff.mpr ⟨rest, rfl⟩))

theorem getLast?_ne_slash {p : Text} (h : isDirectoryText p = false) :
    ∀ c ∈ p.getLast?, (c == slash) = false := by
  intro c hc
  rw [← Bool.not_eq_true, isDirectoryText_iff] at h
  rw [beq_eq_false_iff_ne]
  rintro rfl
  exact h ⟨_, List.dropLast_append_getLast? slash hc⟩

/-- Segments are left of a path when its outer slashes are taken away. -/
theorem trim_join {segments : List Text} (h : ∀ s ∈ segments, Proper s) {closing : Text}
    (hclosing : ∀ c ∈ closing, c = slash) :
    Text.trim (· == slash) (Text.join [slash] segments ++ closing) = Text.join [slash] segments := by
  have hslashes : ∀ c ∈ closing, (c == slash) = true := fun c hc => beq_iff_eq.mpr (hclosing c hc)
  by_cases hnil : segments = []
  · subst hnil
    show Text.trimEnd _ (Text.trimStart _ closing) = []
    rw [Text.trimStart_eq_nil hslashes]
    rfl
  · have hjoin : Text.join [slash] segments ≠ [] := mt (join_eq_nil_iff h).mp hnil
    have hfirst : isAbsolute (Text.join [slash] segments ++ closing) = false :=
      (isAbsolute_append_of_ne_nil hjoin closing).trans (isAbsolute_join h)
    have hend : ∀ c ∈ (Text.join [slash] segments).reverse.head?, (c == slash) = false := by
      rw [List.head?_reverse]
      exact getLast?_ne_slash (not_isDirectoryText_join hnil h [])
    rw [Text.trim, Text.trimStart_eq_self (head?_ne_slash hfirst), Text.trimEnd, List.reverse_append]
    show (Text.trimStart (· == slash) _).reverse = _
    rw [Text.trimStart_append_left fun c hc => hslashes c (List.mem_reverse.mp hc),
      Text.trimStart_eq_self hend, List.reverse_reverse]

/-! ## The package of a clean path -/

/-- The first segment and the path behind it. -/
theorem first_and_rest {name : Text} {segments : List Text} (h : ∀ s ∈ name :: segments, Proper s)
    {closing : Text} (hclosing : ∀ c ∈ closing, c = slash) {p : Text}
    (hp : p = Text.join [slash] (name :: segments) ++ closing) :
    p.takeWhile (· != slash) = name
      ∧ Text.trim (· == slash) (p.drop (name.length + 1)) = Text.join [slash] segments := by
  obtain ⟨hname, hsegments⟩ := List.forall_mem_cons.mp h
  obtain ⟨behind, hbehind, hslash, hrest⟩ : ∃ behind, p = name ++ behind
      ∧ behind.takeWhile (· != slash) = []
      ∧ Text.trim (· == slash) (behind.drop 1) = Text.join [slash] segments := by
    cases segments with
    | nil =>
        refine ⟨closing, hp, ?_, ?_⟩
        · cases closing with
          | nil => rfl
          | cons c rest => simp [hclosing c List.mem_cons_self]
        · show Text.trim _ (Text.join [slash] [] ++ closing.drop 1) = _
          exact trim_join hsegments fun c hc => hclosing c (List.mem_of_mem_drop hc)
    | cons first rest =>
        refine ⟨slash :: (Text.join [slash] (first :: rest) ++ closing), ?_, by simp, ?_⟩
        · rw [hp, Text.join]
          · simp
          · simp
        · exact trim_join hsegments hclosing
  have hall : ∀ c ∈ name, (c != slash) = true := fun c hc =>
    bne_iff_ne.mpr fun heq => hname.2.2 (heq ▸ hc)
  constructor
  · rw [hbehind, List.takeWhile_append_of_pos hall, hslash, List.append_nil]
  · rw [hbehind, List.drop_length_add_append]
    exact hrest

/-- A clean relative path that leads somewhere else starts with a name. Another step outwards can
only stand behind a step outwards. -/
theorem exists_clean_eq {p : Text} (hne : p ≠ []) (hrelative : isAbsolute (withSlashes p) = false) :
    clean p = current ∨ clean p = current ++ [slash]
      ∨ ∃ name segments closing, (∀ s ∈ name :: segments, Proper s)
        ∧ (name ≠ parent → ∀ s ∈ segments, IsSegment s) ∧ (∀ c ∈ closing, c = slash)
        ∧ clean p = Text.join [slash] (name :: segments) ++ closing := by
  obtain ⟨closing, hclosing, hclean⟩ : ∃ closing : Text, (closing = [] ∨ closing = [slash])
      ∧ clean p = normalize (withSlashes p) ++ closing := by
    rcases clean_eq hne with hclean | ⟨hclean, -⟩
    · exact ⟨[], Or.inl rfl, by rw [hclean, List.append_nil]⟩
    · exact ⟨[slash], Or.inr rfl, hclean⟩
  have hproper := proper_normalSegments false (withSlashes p)
  obtain ⟨outwards, names, hnormal, hnames⟩ := exists_normalSegments (withSlashes p)
  rw [normalize_of_relative hrelative] at hclean
  cases hsegments : normalSegments false (Text.split slash (withSlashes p)) with
  | nil =>
      rw [hsegments, if_pos rfl] at hclean
      rcases hclosing with rfl | rfl
      · exact Or.inl (hclean.trans (List.append_nil _))
      · exact Or.inr (Or.inl hclean)
  | cons name segments =>
      rw [hsegments] at hnormal hclean hproper
      rw [if_neg (List.cons_ne_nil name segments)] at hclean
      refine Or.inr (Or.inr ⟨name, segments, closing, hproper, fun hname s hs => ?_, ?_, hclean⟩)
      · cases outwards with
        | zero =>
            rw [List.replicate_zero, List.nil_append] at hnormal
            exact hnames s (hnormal ▸ List.mem_cons_of_mem name hs)
        | succ n => exact absurd (List.cons.inj hnormal).1 hname
      · rcases hclosing with rfl | rfl <;> simp

end Path

/-! ## Below a place -/

/-- An entry in the directory of a package, below it or at its top. -/
def Host.StandsIn (host : Host) (name : Text) (segments : List Text) (entry : Entry) : Prop :=
  ∃ place, host.packagePlace? name = .ok (some place)
    ∧ host.tree.entry? (place ++ segments) = some entry

/-- Segments that lead one level down each lead below the place where they start. -/
theorem FileTree.eq_append_of_follow {tree : FileTree} {place reached : Place}
    {segments : List Text} (h : ∀ s ∈ segments, Path.IsSegment s)
    (hfollow : tree.follow place segments = .ok reached) : reached = place ++ segments := by
  induction segments generalizing place with
  | nil =>
      obtain rfl := Except.ok.inj hfollow
      exact (List.append_nil place).symm
  | cons s rest ih =>
      obtain ⟨hs, hrest⟩ := List.forall_mem_cons.mp h
      have hstay : ¬(s = [] ∨ s = Path.current) := not_or.mpr ⟨hs.1.1, hs.1.2.1⟩
      rw [follow, if_neg hstay, if_neg hs.2] at hfollow
      split at hfollow
      · split at hfollow
        · cases hfollow
        · split at hfollow
          · rw [ih hrest hfollow, List.append_assoc, List.singleton_append]
          · cases hfollow
      · split at hfollow <;> cases hfollow

namespace Handle

variable {host : Host} {name path : Text}

/-- What stands under a path of segments in a package stands below the place of the package. -/
theorem standsIn_of_entry? {segments : List Text} (h : ∀ s ∈ segments, Path.IsSegment s)
    {entry : Entry}
    (hentry : Handle.entry? host (package name (Text.join [slash] segments)) = .ok (some entry)) :
    host.StandsIn name segments entry := by
  obtain ⟨place, reached, hplace, -, -, hfollow, hentry⟩ := Host.packageEntry?_eq_some_iff.mp hentry
  refine ⟨place, hplace, ?_⟩
  have hreached : reached = place ++ segments := by
    cases segments with
    | nil =>
        rw [List.append_nil]
        exact (FileTree.eq_of_follow_stay (Or.inl rfl) hfollow).symm
    | cons s rest =>
        rw [Text.split_join (List.cons_ne_nil s rest) fun t ht => (h t ht).1.2.2] at hfollow
        exact FileTree.eq_append_of_follow h hfollow
  rw [← hreached]
  exact hentry

/-- Nothing can be asked of a package that is named relative to another one. -/
theorem relative_refused (hname : Text.startsWith name Path.current = true) (path : Text)
    (host : Host) :
    (package name path).exists? host = .error .relativePackage
      ∧ (package name path).isDirectory? host = .error .relativePackage
      ∧ (package name path).read host = .error .relativePackage := by
  have hne : name ≠ [] := by
    rintro rfl
    cases hname
  have hentry : host.packageEntry? name path = .error .relativePackage := by
    rw [Host.packageEntry?, Host.packagePlace?, if_neg hne, if_pos hname]
    rfl
  have hbind : ∀ {β : Type} (next : Option Entry → Except Fault β),
      (host.packageEntry? name path >>= next) = .error .relativePackage := fun next => by
    rw [hentry]
    rfl
  exact ⟨hbind _, hbind _, hbind _⟩

/-- The file that is read is the one that stands there. -/
theorem entry?_of_read {content : List UInt8} (h : (package name path).read host = .ok content) :
    Handle.entry? host (package name path) = .ok (some (.file content)) := by
  obtain ⟨entry, hentry, hread⟩ := bind_eq_ok_iff.mp
    (show (host.packageEntry? name path >>= _) = _ from h)
  split at hread
  · rw [← Except.ok.inj hread]
    exact hentry
  · cases hread

end Handle

namespace Store

/-- Behind a name that is not relative, the path inside a package has segments that lead down. -/
theorem packageHandle_cases (path : Text) :
    (∃ cleaned, packageHandle path = .error (.unnamedPackage cleaned))
      ∨ ∃ name segments, packageHandle path = .ok (.package name (Text.join [slash] segments))
        ∧ Path.Proper name ∧ (name ≠ Path.parent → ∀ s ∈ segments, Path.IsSegment s) := by
  rw [packageHandle]
  generalize Text.trimStart (· == slash) path = inside
  split
  · exact Or.inl ⟨_, rfl⟩
  · rename_i hname
    rw [Bool.or_eq_true, not_or, decide_eq_true_iff, decide_eq_true_iff] at hname
    obtain ⟨hnil, hcurrent⟩ := hname
    have hne : inside ≠ [] := by
      rintro rfl
      exact hnil rfl
    have hrelative : Path.isAbsolute (Path.withSlashes inside) = false := by
      rw [← Path.isAbsolute_clean, ← Bool.not_eq_true, Path.isAbsolute, Text.startsWith_iff]
      rintro ⟨rest, hrest⟩
      rw [← hrest] at hnil
      exact hnil rfl
    rcases Path.exists_clean_eq hne hrelative with
      hclean | hclean | ⟨name, segments, closing, hproper, hdown, hclosing, hclean⟩
    · exact absurd (congrArg (List.takeWhile (· != slash)) hclean) hcurrent
    · exact absurd (congrArg (List.takeWhile (· != slash)) hclean) hcurrent
    · obtain ⟨hfirst, hrest⟩ := Path.first_and_rest hproper hclosing hclean
      refine Or.inr ⟨name, segments, ?_, hproper name List.mem_cons_self, hdown⟩
      rw [hfirst, Handle.ofPackage, hrest]

/-- A location of the package scheme names no package, or a package and a path inside it. Nothing can
be asked of a package whose name starts with a dot. In any other one the path is empty or goes down
segment by segment, and what stands there stands below the directory of the package. -/
theorem handle_in_package (store : Store) {location : Text}
    (hscheme : Text.startsWith location packageScheme = true) (hpattern : isPattern location = false) :
    (∃ path, store.handle location = .error (.unnamedPackage path))
      ∨ ∃ name path, store.handle location = .ok (.package name path) ∧ name ≠ [] ∧ slash ∉ name
        ∧ (Text.startsWith name Path.current = true → ∀ host,
            (Handle.package name path).exists? host = .error .relativePackage
              ∧ (Handle.package name path).isDirectory? host = .error .relativePackage
              ∧ (Handle.package name path).read host = .error .relativePackage)
        ∧ (Text.startsWith name Path.current = false →
            ∃ segments, path = Text.join [slash] segments
              ∧ (∀ s ∈ segments, s ≠ [] ∧ s ≠ Path.current ∧ s ≠ Path.parent ∧ slash ∉ s)
              ∧ ∀ host : Host,
                  (∀ entry, Handle.entry? host (.package name path) = .ok (some entry) →
                      host.StandsIn name segments entry)
                    ∧ ∀ content, (Handle.package name path).read host = .ok content →
                        host.StandsIn name segments (.file content)) := by
  obtain ⟨path, rfl⟩ := Text.startsWith_iff.mp hscheme
  have hhandle : store.handle (packageScheme ++ path) = packageHandle path := by
    rw [handle, if_neg (by simp [hpattern]), if_neg (by simp [isSupported, hscheme]),
      Text.dropLeading?_append]
  rw [hhandle]
  refine (packageHandle_cases path).imp_right ?_
  rintro ⟨name, segments, hok, hname, hdown⟩
  refine ⟨name, _, hok, hname.1, hname.2.2, fun hrelative host => ?_, fun hrelative => ?_⟩
  · exact Handle.relative_refused hrelative _ host
  · have hsegments : ∀ s ∈ segments, Path.IsSegment s := by
      refine hdown ?_
      rintro rfl
      cases hrelative
    refine ⟨segments, rfl, fun s hs => ?_, fun host => ⟨fun entry => ?_, fun content hread => ?_⟩⟩
    · obtain ⟨⟨hnil, hcurrent, hslash⟩, hparent⟩ := hsegments s hs
      exact ⟨hnil, hcurrent, hparent, hslash⟩
    · exact Handle.standsIn_of_entry? hsegments
    · exact Handle.standsIn_of_entry? hsegments (Handle.entry?_of_read hread)

/-- Backslashes are turned into slashes before the steps outwards are taken back. -/
theorem handle_in_package_app :
    ∃ segments, ("config/base.yml" : Text) = Text.join [slash] segments
      ∧ (∀ s ∈ segments, s ≠ [] ∧ s ≠ Path.current ∧ s ≠ Path.parent ∧ slash ∉ s)
      ∧ Store.handle ⟨none⟩ "package:/app\\./data/../config//base.yml/" =
          .ok (.package "app" "config/base.yml")
      ∧ ∀ host entry, Handle.entry? host (.package "app" "config/base.yml") = .ok (some entry) →
          host.StandsIn "app" segments entry := by
  have hhandle : Store.handle ⟨none⟩ "package:/app\\./data/../config//base.yml/" =
      .ok (.package "app" "config/base.yml") := by
    decide +kernel
  rcases @handle_in_package ⟨none⟩ "package:/app\\./data/../config//base.yml/" (by decide) (by decide)
    with ⟨path, herror⟩ | ⟨name, path, hok, -, -, -, hbelow⟩
  · cases hhandle.symm.trans herror
  · obtain ⟨rfl, rfl⟩ := Handle.package.inj (Except.ok.inj (hok.symm.trans hhandle))
    obtain ⟨segments, hpath, hsegments, hstands⟩ := hbelow (by decide)
    exact ⟨segments, hpath, hsegments, hhandle, fun host => (hstands host).1⟩

end Store

end ConfigLocator
