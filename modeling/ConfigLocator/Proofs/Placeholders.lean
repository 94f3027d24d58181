import ConfigLocator.Proofs.FileTree
import ConfigLocator.Proofs.OrderedSet
import ConfigLocator.Proofs.Outcome
import ConfigLocator.StandardResolver

/-!
# Placeholders across groups

A group of references that finds nothing falls back on placeholders, and a placeholder that an
earlier group has used is left out. `Resource.withoutRepeats` is that rule for a plain list of
resources: of the placeholders of one absolute directory the first is kept. It agrees with the set
of used placeholders as long as the set knows exactly the directories seen (`Resource.Tracks`), for
every placeholder of a group stands for a directory of the file system
(`StandardResolver.placeholderDirectory?_of_mem_groupPlaceholders`).
-/

namespace ConfigLocator

namespace Resource

/-! ## Directories of placeholders -/

/-- The absolute directory that a placeholder stands for. -/
def placeholderDirectory? (host : Host) (x : Resource) : Option Text :=
  match x.isPlaceholder, x.handle with
  | true, .file path => some (host.absolutePath path)
  | _, _ => none

/-- The list without the placeholders whose directory is among those seen or has an earlier
placeholder. -/
def withoutRepeats (host : Host) : List Text → List Resource → List Resource
  | _, [] => []
  | seen, x :: rest =>
    match x.placeholderDirectory? host with
    | none => x :: withoutRepeats host seen rest
    | some directory =>
      if directory ∈ seen then withoutRepeats host seen rest
      else x :: withoutRepeats host (directory :: seen) rest

variable {host : Host}

theorem placeholderDirectory?_eq_some {x : Resource} {directory : Text}
    (h : x.placeholderDirectory? host = some directory) :
    x.isPlaceholder = true ∧ x.handle.canonical host = .file directory := by
  unfold placeholderDirectory? at h
  split at h
  · rename_i path hplaceholder hhandle
    cases h
    exact ⟨hplaceholder, by rw [hhandle]; rfl⟩
  · cases h

theorem placeholderDirectory?_eq_none {x : Resource} (h : x.isPlaceholder = false) :
    x.placeholderDirectory? host = none := by
  simp [placeholderDirectory?, h]

/-- Two placeholders are the same when they stand for one directory. -/
theorem same_iff_directory {x y : Resource} {d e : Text}
    (hx : x.placeholderDirectory? host = some d) (hy : y.placeholderDirectory? host = some e) :
    same host x y = true ↔ d = e := by
  obtain ⟨hpx, hcx⟩ := placeholderDirectory?_eq_some hx
  obtain ⟨hpy, hcy⟩ := placeholderDirectory?_eq_some hy
  simp [same, Handle.same, hpx, hpy, hcx, hcy]

theorem same_trans (x y z : Resource) (hxy : same host x y = true) (hyz : same host y z = true) :
    same host x z = true := by
  simp only [same, Handle.same, Bool.and_eq_true, beq_iff_eq] at *
  exact ⟨hxy.1.trans hyz.1, hxy.2.trans hyz.2⟩

/-! ## Leaving out repeats -/

/-- What was seen matters only as a collection. -/
theorem withoutRepeats_congr {seen seen' : List Text} (h : ∀ d, d ∈ seen ↔ d ∈ seen')
    (xs : List Resource) : withoutRepeats host seen xs = withoutRepeats host seen' xs := by
  induction xs generalizing seen seen' with
  | nil => rfl
  | cons x rest ih =>
      simp only [withoutRepeats]
      split
      · rw [ih h]
      · rename_i directory _
        have hcons : ∀ d, d ∈ directory :: seen ↔ d ∈ directory :: seen' := by simp [h]
        rw [ih h, ih hcons]
        simp [h]

theorem withoutRepeats_append_found {seen : List Text} {found : List Resource}
    (h : ∀ x ∈ found, x.isPlaceholder = false) (later : List Resource) :
    withoutRepeats host seen (found ++ later) = found ++ withoutRepeats host seen later := by
  induction found with
  | nil => rfl
  | cons x rest ih =>
      obtain ⟨hx, hrest⟩ := List.forall_mem_cons.mp h
      rw [List.cons_append, withoutRepeats, placeholderDirectory?_eq_none hx, ih hrest]
      rfl

theorem mem_of_mem_withoutRepeats {seen : List Text} {xs : List Resource} {x : Resource}
    (h : x ∈ withoutRepeats host seen xs) : x ∈ xs := by
  induction xs generalizing seen with
  | nil => exact h
  | cons y rest ih =>
      unfold withoutRepeats at h
      split at h
      · rcases List.mem_cons.mp h with rfl | h
        · exact List.mem_cons_self
        · exact List.mem_cons_of_mem _ (ih h)
      · split at h
        · exact List.mem_cons_of_mem _ (ih h)
        · rcases List.mem_cons.mp h with rfl | h
          · exact List.mem_cons_self
          · exact List.mem_cons_of_mem _ (ih h)

/-- The set of used placeholders knows exactly the directories seen. -/
def Tracks (host : Host) (used : OrderedSet Resource (same host)) (seen : List Text) : Prop :=
  ∀ x d, placeholderDirectory? host x = some d → (used.contains x = true ↔ d ∈ seen)

theorem tracks_empty : Tracks host .empty [] := by
  intro x d _
  simp

/-- The directories of a list of placeholders. -/
def directories (host : Host) (xs : List Resource) : List Text :=
  xs.filterMap (placeholderDirectory? host)

theorem Tracks.insertMany {used : OrderedSet Resource (same host)} {seen : List Text}
    (h : Tracks host used seen) {xs : List Resource}
    (hxs : ∀ x ∈ xs, ∃ d, x.placeholderDirectory? host = some d) :
    Tracks host (used.insertMany xs) (directories host xs ++ seen) := by
  intro y e hy
  rw [OrderedSet.contains_insertMany same_trans, Bool.or_eq_true, h y e hy, List.mem_append,
    or_comm, List.any_eq_true, directories, List.mem_filterMap]
  refine or_congr (exists_congr fun x => and_congr_right fun hx => ?_) Iff.rfl
  obtain ⟨d, hd⟩ := hxs x hx
  rw [same_iff_directory hd hy, hd, Option.some.injEq]

/-- Of distinct placeholders those that are not used are kept. -/
theorem withoutRepeats_append_placeholders {used : OrderedSet Resource (same host)}
    {seen : List Text} (h : Tracks host used seen) {xs : List Resource}
    (hxs : ∀ x ∈ xs, ∃ d, x.placeholderDirectory? host = some d)
    (hdistinct : xs.Pairwise fun a b => same host a b = false) (later : List Resource) :
    withoutRepeats host seen (xs ++ later) =
      xs.filter (fun x => !used.contains x)
        ++ withoutRepeats host (directories host xs ++ seen) later := by
  induction xs generalizing used seen with
  | nil => rfl
  | cons x rest ih =>
      obtain ⟨⟨d, hd⟩, hrest⟩ := List.forall_mem_cons.mp hxs
      obtain ⟨hx, hpair⟩ := List.pairwise_cons.mp hdistinct
      have hdirectories : directories host (x :: rest) = d :: directories host rest := by
        simp [directories, hd]
      rw [List.cons_append, withoutRepeats, hd, hdirectories]
      by_cases hseen : d ∈ seen
      · have hused : used.contains x = true := (h x d hd).mpr hseen
        have hcongr : ∀ e, e ∈ directories host rest ++ seen ↔
            e ∈ d :: directories host rest ++ seen := by
          intro e
          simp only [List.mem_append, List.mem_cons]
          constructor
          · rintro (h1 | h1) <;> simp [h1]
          · rintro ((rfl | h1) | h1) <;> simp_all
        simp only [if_pos hseen, List.filter_cons, hused]
        rw [ih h hrest hpair, withoutRepeats_congr hcongr]
        rfl
      · have hused : used.contains x = false := by
          rw [← Bool.not_eq_true, h x d hd]
          exact hseen
        have hfilter : rest.filter (fun y => !(used.insertMany [x]).contains y) =
            rest.filter (fun y => !used.contains y) := by
          refine List.filter_congr fun y hy => ?_
          rw [OrderedSet.contains_insertMany same_trans]
          simp [hx y hy]
        have hstep : Tracks host (used.insertMany [x]) (d :: seen) := by
          have hone : ∀ y ∈ [x], ∃ e, y.placeholderDirectory? host = some e := by simp [hd]
          simpa [directories, hd] using h.insertMany hone
        have hcongr : ∀ e, e ∈ directories host rest ++ (d :: seen) ↔
            e ∈ d :: directories host rest ++ seen := by
          intro e
          simp only [List.mem_append, List.mem_cons]
          tauto
        simp only [if_neg hseen, List.filter_cons, hused, Bool.not_false, if_true]
        rw [ih hstep hrest hpair, hfilter, withoutRepeats_congr hcongr]
        rfl

end Resource

/-! ## Gathering -/

namespace OrderedSet

variable {α β : Type} {same : α → α → Bool} {g : β → Except Fault (List α)} {bs : List β}
  {s t : OrderedSet α same}

/-- Lists that are found one after the other end up in one set. -/
theorem gather_eq_ok_iff :
    bs.foldlM (fun found b => do return found.insertMany (← g b)) s = .ok t ↔
      ∃ lists, List.Forall₂ (fun b list => g b = .ok list) bs lists
        ∧ t = s.insertMany lists.flatten := by
  induction bs generalizing s with
  | nil =>
      simp only [List.foldlM_nil, pure_eq_ok_iff, List.forall₂_nil_left_iff]
      constructor
      · rintro rfl
        exact ⟨[], rfl, rfl⟩
      · rintro ⟨lists, rfl, rfl⟩
        rfl
  | cons b rest ih =>
      simp only [List.foldlM_cons, bind_eq_ok_iff, pure_eq_ok_iff, ih,
        List.forall₂_cons_left_iff]
      constructor
      · rintro ⟨_, ⟨list, hlist, rfl⟩, lists, hlists, rfl⟩
        refine ⟨list :: lists, ⟨list, lists, hlist, hlists, rfl⟩, ?_⟩
        rw [List.flatten_cons, insertMany_append]
      · rintro ⟨_, ⟨list, lists, hlist, hlists, rfl⟩, rfl⟩
        refine ⟨_, ⟨list, hlist, rfl⟩, lists, hlists, ?_⟩
        rw [List.flatten_cons, insertMany_append]

theorem gather_eq_error_iff {fault : Fault} :
    bs.foldlM (fun found b => do return found.insertMany (← g b)) s = .error fault ↔
      ∃ b, FirstFails g bs b fault := by
  induction bs generalizing s with
  | nil => simp [not_firstFails_nil, pure, Except.pure]
  | cons b rest ih =>
      rw [List.foldlM_cons, exists_firstFails_cons_iff]
      cases g b with
      | error other => simp [bind, Except.bind]
      | ok list =>
          show List.foldlM _ (s.insertMany list) rest = _ ↔ _
          simp only [ih, reduceCtorEq, false_or, Except.ok.injEq, exists_eq_left']

end OrderedSet

/-! ## What the store expands a pattern to -/

/-- Only entries of the file system are found by a pattern. -/
theorem Store.file_of_mem_expand {store : Store} {host : Host} {location : Text}
    {kind : PatternKind} {handles : List Handle} (h : store.expand host location kind = .ok handles)
    {x : Handle} (hx : x ∈ handles) : ∃ path, x = .file path := by
  unfold Store.expand at h
  split at h
  · cases h
  · obtain ⟨directories, -, h⟩ := bind_eq_ok_iff.mp h
    cases kind with
    | directories =>
        cases h
        obtain ⟨path, -, rfl⟩ := List.mem_map.mp hx
        exact ⟨_, rfl⟩
    | files =>
        cases h
        obtain ⟨path, -, rfl⟩ := List.mem_map.mp hx
        exact ⟨path, rfl⟩

/-- An entry of the file system that is there. -/
def Handle.isThere (host : Host) : Handle → Bool
  | .file path => (host.lookup path).toOption.isSome
  | .package .. => false

/-- Whether an entry of the file system is there always has an answer. -/
theorem Handle.exists?_file (host : Host) (path : Text) :
    (Handle.file path).exists? host = .ok ((Handle.file path).isThere host) := rfl

theorem Handle.isDirectory?_file_eq_true {host : Host} {path : Text} :
    (Handle.file path).isDirectory? host = .ok true ↔ host.lookup path = .ok .directory := by
  show Except.ok ((host.lookup path).toOption.any Entry.isDirectory) = _ ↔ _
  cases host.lookup path with
  | error fault => simp [Except.toOption]
  | ok entry => cases entry <;> simp [Except.toOption, Entry.isDirectory]

theorem Handle.isDirectory?_file_eq_false {host : Host} {path : Text} :
    (Handle.file path).isDirectory? host = .ok false ↔ host.lookup path ≠ .ok .directory := by
  rw [ne_eq, ← isDirectory?_file_eq_true]
  show Except.ok ((host.lookup path).toOption.any Entry.isDirectory) = _ ↔
    ¬Except.ok ((host.lookup path).toOption.any Entry.isDirectory) = _
  simp

theorem Store.exists?_of_mem_expand {store : Store} {host : Host} {location : Text}
    {kind : PatternKind} {handles : List Handle} (h : store.expand host location kind = .ok handles) :
    ∀ x ∈ handles, x.exists? host = .ok (x.isThere host) := by
  intro x hx
  obtain ⟨path, rfl⟩ := file_of_mem_expand h hx
  exact Handle.exists?_file host path

/-- A subdirectory that a pattern stands for is a directory if it exists. -/
theorem Store.lookup_of_mem_expand_directories {store : Store} {host : Host} {location : Text}
    {handles : List Handle} (h : store.expand host location .directories = .ok handles)
    {handle : Handle} (hmem : handle ∈ handles) (hthere : handle.isThere host = true) :
    ∃ path, handle = .file path ∧ host.lookup path = .ok .directory := by
  unfold expand at h
  split at h
  · cases h
  · obtain ⟨directories, -, h⟩ := bind_eq_ok_iff.mp h
    cases h
    obtain ⟨path, -, rfl⟩ := List.mem_map.mp hmem
    refine ⟨path ++ [slash], rfl, ?_⟩
    cases hlookup : host.lookup (path ++ [slash]) with
    | error fault =>
        rw [Handle.isThere, hlookup] at hthere
        cases hthere
    | ok entry => rw [FileTree.lookup_append_slash hlookup]

namespace StandardResolver

variable {r : StandardResolver} {host : Host}

/-! ## The placeholders of a group -/

/-- A placeholder belongs to the reference that it was looked for, which scans a directory, and stands
for a directory of the file system that is there. -/
theorem mem_placeholders {reference : Reference} {found : List Resource}
    (h : r.placeholders host reference = .ok found) {x : Resource} (hx : x ∈ found) :
    x.reference = reference ∧ x.isPlaceholder = true ∧ reference.directory.isSome = true
      ∧ ∃ path, x.handle = .file path ∧ host.lookup path = .ok .directory := by
  unfold placeholders at h
  split at h
  · cases h
    cases hx
  · rename_i directory hdirectory
    have hscans : reference.directory.isSome = true := by simp [hdirectory]
    rw [wrapFaults_eq_ok_iff] at h
    split at h
    · cases h
      cases hx
    · split at h
      · simp only [patternPlaceholders, bind_eq_ok_iff] at h
        obtain ⟨handles, hhandles, h⟩ := h
        split at h
        · cases h
        · rw [filterM_eq_filter (Store.exists?_of_mem_expand hhandles)] at h
          cases h
          obtain ⟨handle, hhandle, rfl⟩ := List.mem_map.mp hx
          obtain ⟨hmem, hthere⟩ := List.mem_filter.mp hhandle
          exact ⟨rfl, rfl, hscans, Store.lookup_of_mem_expand_directories hhandles hmem hthere⟩
      · simp only [entryPlaceholder, bind_eq_ok_iff] at h
        obtain ⟨handle, -, h⟩ := h
        cases handle with
        | package name path =>
            cases h
            cases hx
        | file path =>
            obtain ⟨isDirectory, hthere, h⟩ := bind_eq_ok_iff.mp h
            cases isDirectory with
            | false =>
                cases h
                cases hx
            | true =>
                cases h
                obtain rfl := List.mem_singleton.mp hx
                exact ⟨rfl, rfl, hscans, path, rfl, Handle.isDirectory?_file_eq_true.mp hthere⟩

theorem groupPlaceholders_eq_ok_iff {group : List Reference}
    {empty : OrderedSet Resource (Resource.same host)} :
    r.groupPlaceholders host group = .ok empty ↔
      ∃ lists, List.Forall₂ (fun x list => r.placeholders host x = .ok list) group lists
        ∧ empty = .ofList lists.flatten :=
  OrderedSet.gather_eq_ok_iff

/-- A group fails with the fault of its first reference that fails. -/
theorem groupPlaceholders_eq_error_iff {group : List Reference} {fault : Fault} :
    r.groupPlaceholders host group = .error fault ↔
      ∃ x, FirstFails (r.placeholders host) group x fault :=
  OrderedSet.gather_eq_error_iff

theorem exists_of_mem_groupPlaceholders {group : List Reference}
    {empty : OrderedSet Resource (Resource.same host)}
    (h : r.groupPlaceholders host group = .ok empty) {x : Resource} (hx : x ∈ empty.items) :
    ∃ reference ∈ group, ∃ list, r.placeholders host reference = .ok list ∧ x ∈ list := by
  obtain ⟨lists, hlists, rfl⟩ := groupPlaceholders_eq_ok_iff.mp h
  rw [OrderedSet.items_ofList] at hx
  obtain ⟨list, hlist, hx⟩ := List.mem_flatten.mp (OrderedSet.mem_of_mem_firstOccurrences hx)
  obtain ⟨reference, hreference, hlist⟩ := exists_of_mem_results hlists hlist
  exact ⟨reference, hreference, list, hlist, hx⟩

theorem placeholderDirectory?_of_mem_groupPlaceholders {group : List Reference}
    {empty : OrderedSet Resource (Resource.same host)}
    (h : r.groupPlaceholders host group = .ok empty) :
    ∀ x ∈ empty.items, ∃ d, x.placeholderDirectory? host = some d := by
  intro x hx
  obtain ⟨reference, -, list, hlist, hx⟩ := exists_of_mem_groupPlaceholders h hx
  obtain ⟨-, hplaceholder, -, path, hpath, -⟩ := mem_placeholders hlist hx
  exact ⟨_, by rw [Resource.placeholderDirectory?, hplaceholder, hpath]⟩

end StandardResolver

end ConfigLocator
