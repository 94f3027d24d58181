import Mathlib.Data.List.Induction
import Mathlib.Data.List.ReduceOption
import ConfigLocator.Document.Loaders
import ConfigLocator.Proofs.Gathering
import ConfigLocator.Proofs.Outcome

/-!
# Later documents

The documents of a YAML file are flattened one by one, and a later one is bound over the earlier ones
key by key. So it has the last word over the keys that it binds itself, and for a list those are the
keys of its items: a single value that an earlier document has under the key of the list stays in
front of it, and the items of an earlier list go on behind its own.

`lastWord` is what becomes of the values that the documents bind. `Binder.get_ofFile_documents` says
that a binder of the file finds it, and when it is the value of the last document.
-/

namespace ConfigLocator

/-! ## Maps over one another -/

theorem isFlat_foldl_merge {layers : List PropertyMap} (h : ∀ m ∈ layers, m.IsFlat) :
    (layers.foldl PropertyMap.merge []).IsFlat := by
  induction layers using List.reverseRecOn with
  | nil => exact PropertyMap.isFlat_nil
  | append_singleton layers m ih =>
      rw [List.foldl_concat]
      exact (ih fun m hm => h m (List.mem_append_left _ hm)).merge (h m List.mem_concat_self)

/-- The last map that binds a key decides over it. -/
theorem find?_foldl_merge {layers : List PropertyMap} (h : ∀ m ∈ layers, m.IsFlat) (other : Text) :
    (layers.foldl PropertyMap.merge []).find? other =
      layers.reverse.findSome? (PropertyMap.find? other) := by
  induction layers using List.reverseRecOn with
  | nil => rfl
  | append_singleton layers m ih =>
      rw [List.foldl_concat, PropertyMap.find?_merge (h m List.mem_concat_self).nodup,
        ih fun m hm => h m (List.mem_append_left _ hm), List.reverse_concat, List.findSome?_cons]
      cases m.find? other <;> rfl

theorem Binder.mergeSources_eq (sources : List Source) :
    mergeSources sources = (sources.map Source.properties).foldl PropertyMap.merge [] := by
  rw [mergeSources, List.foldl_map]

/-! ## What a document binds -/

/-- The items of a list. -/
def Value.listItems : Value → List Value
  | list items => items
  | _ => []

/-- What a map binds to a key, if nothing collides with it: the value of the one part that stands
there, an empty text for an empty collection, or the list that is gathered. -/
inductive Value.Binds (v : Value) (key : Text) : Option Value → Prop
  | nothing (hunbound : ∀ other, IsIndexed key other → (flatten [] v).find? other = none) :
      Binds v key none
  | scalar {path : List Nat} {x : Value} (hpart : v.part? [] path = some (key, x))
      (hleaf : x.isLeaf = true)
      (halone : ∀ other, IsIndexed key other → v.Avoids [] other (path <+: ·)) :
      Binds v key (some x)
  | emptied {path : List Nat} {x : Value} (hpart : v.part? [] path = some (key, x))
      (hend : x.isEnd = true) (hcollection : x.isLeaf = false) (hkey : key ≠ [])
      (halone : ∀ other, IsIndexed key other → v.Avoids [] other (path <+: ·)) :
      Binds v key (some (.text []))
  | items {path : List Nat} {xs : List Value} (hpart : v.part? [] path = some (key, .list xs))
      (hxs : xs ≠ []) (hleaves : ∀ x ∈ xs, x.isLeaf = true)
      (halone : ∀ other, IsIndexed key other → v.Avoids [] other (path <+: ·)) :
      Binds v key (some (.list xs))

namespace Value.Binds

variable {v : Value} {key : Text} {bound : Option Value}

/-- What is one value is bound to the key itself. -/
theorem find?_self (h : v.Binds key bound) :
    (flatten [] v).find? key = bound.bind (Option.guard (·.isLeaf)) := by
  cases h with
  | nothing hunbound => exact hunbound key (.self key)
  | scalar hpart hleaf halone =>
      rw [find?_flatten_of_part? hpart (halone key (.self key)), flatten_of_isLeaf hleaf,
        PropertyMap.find?_cons, if_pos rfl, Option.bind_some, Option.guard_pos hleaf]
  | emptied hpart hend hcollection hkey halone =>
      rw [find?_flatten_of_part? hpart (halone key (.self key)), flatten_of_isEnd hend hcollection,
        emptyAt, if_neg hkey, PropertyMap.find?_cons, if_pos rfl]
      rfl
  | items hpart hxs hleaves halone =>
      rw [find?_flatten_of_part? hpart (halone key (.self key)), find?_flatten_list_self hleaves hxs]
      rfl

/-- The items of a list are bound to keys of their own. -/
theorem find?_item (h : v.Binds key bound) (index : Nat) :
    (flatten [] v).find? (itemKey key index) = bound.bind (·.listItems[index]?) := by
  have hitem := IsIndexed.item key index
  have hne : key ≠ itemKey key index := (itemKey_ne key index).symm
  cases h with
  | nothing hunbound => exact hunbound _ hitem
  | @scalar path x hpart hleaf halone =>
      rw [find?_flatten_of_part? hpart (halone _ hitem), flatten_of_isLeaf hleaf,
        PropertyMap.find?_cons, if_neg hne]
      cases x with
      | list items => cases hleaf
      | _ => rfl
  | emptied hpart hend hcollection hkey halone =>
      rw [find?_flatten_of_part? hpart (halone _ hitem), flatten_of_isEnd hend hcollection,
        emptyAt, if_neg hkey, PropertyMap.find?_cons, if_neg hne]
      rfl
  | items hpart hxs hleaves halone =>
      rw [find?_flatten_of_part? hpart (halone _ hitem), find?_flatten_list_item hleaves hxs]
      rfl

/-- What is not one value is a list with items. -/
theorem eq_list {x : Value} (h : v.Binds key (some x)) (hx : x.isLeaf = false) :
    x = .list x.listItems ∧ x.listItems ≠ [] := by
  cases h with
  | scalar _ hleaf =>
      rw [hleaf] at hx
      cases hx
  | emptied => cases hx
  | items _ hxs => exact ⟨rfl, hxs⟩

end Value.Binds

/-! ## The last word -/

/-- The later items, and behind them those of the earlier ones that have a greater index. -/
def overlay (base later : List Value) : List Value := later ++ base.drop later.length

/-- Lists over one another. -/
def layered (values : List Value) : List Value :=
  values.foldl (fun base v => overlay base v.listItems) []

/-- What becomes of the values that are bound to a key one after the other: the last one that is no
list, and the items of all lists over one another if all of them are lists. -/
def lastWord (values : List Value) : Value :=
  match values.reverse.find? (·.isLeaf) with
  | some x => x
  | none => .list (layered values)

theorem getElem?_overlay (base later : List Value) (index : Nat) :
    (overlay base later)[index]? = (later[index]?).or base[index]? := by
  rw [overlay]
  by_cases h : index < later.length
  · rw [List.getElem?_append_left h, List.getElem?_eq_getElem h]
    rfl
  · rw [List.getElem?_append_right (by omega), List.getElem?_drop,
      List.getElem?_eq_none (by omega : later.length ≤ index), Option.none_or,
      show later.length + (index - later.length) = index by omega]

theorem layered_concat (values : List Value) (v : Value) :
    layered (values ++ [v]) = overlay (layered values) v.listItems := by
  rw [layered, List.foldl_concat]
  rfl

/-- Every index is up to the last list that has it. -/
theorem getElem?_layered (values : List Value) (index : Nat) :
    (layered values)[index]? = values.reverse.findSome? (·.listItems[index]?) := by
  induction values using List.reverseRecOn with
  | nil => rfl
  | append_singleton values v ih =>
      rw [layered_concat, getElem?_overlay, ih, List.reverse_concat, List.findSome?_cons]
      cases v.listItems[index]? <;> rfl

theorem length_layered_le_iff {values : List Value} {bound : Nat} :
    (layered values).length ≤ bound ↔ ∀ v ∈ values, v.listItems.length ≤ bound := by
  induction values using List.reverseRecOn with
  | nil => simp [layered]
  | append_singleton values v ih =>
      have hlength : (layered (values ++ [v])).length ≤ bound ↔
          (layered values).length ≤ bound ∧ v.listItems.length ≤ bound := by
        rw [layered_concat, overlay, List.length_append, List.length_drop]
        omega
      rw [hlength, ih, List.forall_mem_append, List.forall_mem_singleton]

theorem overlay_eq_later_iff {base later : List Value} :
    overlay base later = later ↔ base.length ≤ later.length := by
  rw [overlay, List.append_right_eq_self, List.drop_eq_nil_iff]

/-- The last value has the last word if it is no list, or a list over lists that are no longer. -/
theorem lastWord_concat_eq_iff {earlier : List Value} {last : Value}
    (hlast : last.isLeaf = false → last = .list last.listItems) :
    lastWord (earlier ++ [last]) = last ↔
      last.isLeaf = true
        ∨ ∀ v ∈ earlier, v.isLeaf = false ∧ v.listItems.length ≤ last.listItems.length := by
  rw [lastWord, List.reverse_concat, List.find?_cons]
  cases hleaf : last.isLeaf with
  | true => exact iff_of_true rfl (Or.inl rfl)
  | false =>
      rw [or_iff_right Bool.false_ne_true]
      cases hfind : earlier.reverse.find? (·.isLeaf) with
      | some x =>
          have hx : x.isLeaf = true := List.find?_some hfind
          have hmem : x ∈ earlier := List.mem_reverse.mp (List.mem_of_find?_eq_some hfind)
          refine iff_of_false (fun heq => ?_) fun h => ?_
          · obtain rfl : x = last := heq
            rw [hx] at hleaf
            cases hleaf
          · rw [(h x hmem).1] at hx
            cases hx
      | none =>
          have hlists : ∀ v ∈ earlier, v.isLeaf = false := by
            simpa only [List.find?_eq_none, List.mem_reverse, Bool.not_eq_true] using hfind
          have hlength : (layered earlier).length ≤ last.listItems.length ↔
              ∀ v ∈ earlier, v.isLeaf = false ∧ v.listItems.length ≤ last.listItems.length := by
            rw [length_layered_le_iff]
            exact forall₂_congr fun v hv => (and_iff_right (hlists v hv)).symm
          have hlist : ∀ xs, Value.list xs = last ↔ xs = last.listItems := fun xs =>
            ⟨fun h => h ▸ rfl, fun h => h ▸ (hlast hleaf).symm⟩
          rw [← hlength, ← overlay_eq_later_iff, ← layered_concat]
          exact hlist (layered (earlier ++ [last]))

/-! ## A file of documents -/

/-- A file that is read is there. -/
theorem Handle.exists?_of_read {host : Host} {path : Text} {content : List UInt8}
    (h : (Handle.file path).read host = .ok content) :
    (Handle.file path).exists? host = .ok true := by
  cases hlookup : host.tree.lookup host.workingDirectory path with
  | error fault =>
      have hread : host.tree.read host.workingDirectory path = .error fault := by
        rw [FileTree.read, hlookup]
        rfl
      rw [Handle.read, hread] at h
      cases h
  | ok entry =>
      rw [Handle.exists?, Handle.entry?, Host.lookup, hlookup]
      rfl

/-- Documents that are maps become sources, each with what it is flattened to. -/
theorem documentSources_eq_ok (host : Host) (name : Text) (handle : Handle) (several : Bool)
    (index : Nat) {documents : List Yaml.Document}
    (hmaps : ∀ d ∈ documents, d.isEndless = false ∧ ∃ entries, d.value = .map entries) :
    ∃ sources, documentSources host name handle several index documents = .ok sources
      ∧ sources.map Source.properties = documents.map fun d => flatten [] d.value := by
  induction documents generalizing index with
  | nil => exact ⟨[], rfl, rfl⟩
  | cons d rest ih =>
      obtain ⟨⟨hends, entries, hvalue⟩, hrest⟩ := List.forall_mem_cons.mp hmaps
      obtain ⟨sources, hsources, hproperties⟩ := ih (index + 1) hrest
      rw [documentSources, hvalue, hends, hsources]
      refine ⟨_, rfl, ?_⟩
      rw [List.map_cons, List.map_cons, hproperties, hvalue]

/-- What is bound is looked up in the parts that bind something. -/
theorem findSome?_eq_of_forall₂ {α β γ : Type} {f : α → Option γ} {g : β → Option γ}
    {items : List α} {bound : List (Option β)}
    (h : List.Forall₂ (fun a b => f a = b.bind g) items bound) :
    items.findSome? f = bound.reduceOption.findSome? g := by
  induction h with
  | nil => rfl
  | @cons a b items bound hab _ ih =>
      rw [List.findSome?_cons, hab, ih]
      cases b with
      | none => rw [List.reduceOption_cons_of_none, Option.bind_none]
      | some b => rw [List.reduceOption_cons_of_some, List.findSome?_cons, Option.bind_some]

namespace Binder

variable {host : Host} {path : Text} {loaders : List Loader} {id : Nat} {extension : Text}
  {documents : List Yaml.Document} {key : Text}

/-- What a binder finds that has the last of the single values under a key, and the lists over one
another under the keys of items. -/
theorem get_eq_lastWord {b : Binder} {values : List Value} (hvalues : values ≠ [])
    (hlists : ∀ v ∈ values, v.isLeaf = false → v.listItems ≠ [])
    (hself : b.properties.find? key = values.reverse.find? (·.isLeaf))
    (hitem : ∀ index, b.properties.find? (itemKey key index) = (layered values)[index]?)
    (default : Value) : b.get host key default = lastWord values := by
  rw [lastWord]
  cases hfind : values.reverse.find? (·.isLeaf) with
  | some x => exact get_of_find? (hself.trans hfind) default
  | none =>
      obtain ⟨v, hv⟩ := List.exists_mem_of_ne_nil values hvalues
      have hlist : v.isLeaf = false := by
        simpa using List.find?_eq_none.mp hfind v (List.mem_reverse.mpr hv)
      have hlayered : layered values ≠ [] := fun hnil => by
        have hlength : v.listItems.length ≤ 0 :=
          length_layered_le_iff.mp (by rw [hnil, List.length_nil]) v hv
        exact hlists v hv hlist (List.eq_nil_of_length_eq_zero (Nat.le_zero.mp hlength))
      exact get_of_items (hself.trans hfind) hitem hlayered default

section OfFile

variable
  (hloader : Loader.findExtension? (· == (Path.extension path).lower) loaders =
    .ok (some (yamlLoader id, extension)))
  (hdocuments : (Handle.file path).read host >>= host.readYaml = .ok documents)
  (hmaps : ∀ d ∈ documents.filter (·.value.isTruthy),
    d.isEndless = false ∧ ∃ entries, d.value = .map entries)

include hloader hdocuments hmaps

/-- The last document that binds a key decides over it. -/
theorem find?_ofFile_documents (environment : Option (List (Text × Text))) :
    ∃ b, ofFile host path loaders environment = .ok b
      ∧ ∀ other, b.properties.find? other =
          (documents.filter (·.value.isTruthy)).reverse.findSome? fun d =>
            (flatten [] d.value).find? other := by
  obtain ⟨content, hread, hcontent⟩ := bind_eq_ok_iff.mp hdocuments
  let documents := documents.filter (·.value.isTruthy)
  obtain ⟨sources, hsources, hproperties⟩ :=
    documentSources_eq_ok host path (.file path) (documents.length != 1) 0 hmaps
  have hload : (yamlLoader id).load host path (.file path) = .ok sources := by
    show loadYaml host path (.file path) = _
    rw [loadYaml, hread]
    show (host.readYaml content >>= _) = _
    rw [hcontent]
    exact hsources
  let layers := documents.map fun d => flatten [] d.value
  have hflat : ∀ m ∈ layers, m.IsFlat := List.forall_mem_map.mpr fun d _ => isFlat_flatten [] d.value
  have hmerged : mergeSources sources = layers.foldl PropertyMap.merge [] := by
    rw [mergeSources_eq, hproperties]
  refine ⟨⟨flatten [] (.map (mergeSources sources).entries), environment⟩, ?_, fun other => ?_⟩
  · have hloads : ((yamlLoader id).load host path (.file path) >>= fun sources =>
        pure ⟨flatten [] (.map (mergeSources sources).entries), environment⟩) =
        (.ok ⟨flatten [] (.map (mergeSources sources).entries), environment⟩ : Except Fault Binder) :=
      bind_eq_ok_iff.mpr ⟨sources, hload, rfl⟩
    rw [ofFile]
    exact bind_eq_ok_iff.mpr ⟨_, hloader, bind_eq_ok_iff.mpr ⟨true, Handle.exists?_of_read hread, hloads⟩⟩
  · show (flatten [] (.map (mergeSources sources).entries)).find? other = _
    rw [flatten_entries, hmerged, find?_flattenEntries_of_isFlat (isFlat_foldl_merge hflat),
      find?_foldl_merge hflat, ← List.map_reverse, List.findSome?_map]
    rfl

/-- A binder of a file of documents finds the last word of the values that they bind to a key. That
is the value of the last document which binds it exactly if that is no list, or a list over lists
that are no longer. -/
theorem get_ofFile_documents {bound : List (Option Value)} {earlier : List Value} {last : Value}
    (hbinds : List.Forall₂ (fun d => Value.Binds d.value key)
      (documents.filter (·.value.isTruthy)) bound)
    (hbound : bound.reduceOption = earlier ++ [last]) (environment : Option (List (Text × Text))) :
    ∃ b, ofFile host path loaders environment = .ok b
      ∧ ∀ default, b.get host key default = lastWord (earlier ++ [last])
        ∧ (b.get host key default = last ↔ last.isLeaf = true
            ∨ ∀ v ∈ earlier, v.isLeaf = false ∧ v.listItems.length ≤ last.listItems.length) := by
  obtain ⟨b, hb, hfind⟩ := find?_ofFile_documents hloader hdocuments hmaps environment
  have hback := List.forall₂_reverse_iff.mpr hbinds
  have hvalues : bound.reverse.reduceOption = (earlier ++ [last]).reverse := by
    rw [← hbound]
    exact List.filterMap_reverse
  have hself : b.properties.find? key = (earlier ++ [last]).reverse.find? (·.isLeaf) := by
    rw [hfind, findSome?_eq_of_forall₂ (hback.imp fun d x hx => hx.find?_self), hvalues,
      List.findSome?_guard]
  have hitem : ∀ index,
      b.properties.find? (itemKey key index) = (layered (earlier ++ [last]))[index]? := by
    intro index
    rw [hfind, findSome?_eq_of_forall₂ (hback.imp fun d x hx => hx.find?_item index), hvalues,
      getElem?_layered]
  have hlists : ∀ v ∈ earlier ++ [last], v.isLeaf = false →
      v = .list v.listItems ∧ v.listItems ≠ [] := by
    intro v hv hlist
    rw [← hbound, List.reduceOption_mem_iff] at hv
    obtain ⟨d, -, hd⟩ := exists_of_mem_results hbinds hv
    exact hd.eq_list hlist
  refine ⟨b, hb, fun default => ?_⟩
  have hget := @get_eq_lastWord host key b (earlier ++ [last]) (by simp)
    (fun v hv hlist => (hlists v hv hlist).2) hself hitem default
  refine ⟨hget, ?_⟩
  rw [hget]
  exact lastWord_concat_eq_iff fun hlist => (hlists last (by simp) hlist).1

end OfFile

/-! ## A shorter list over a longer one -/

/-- Two documents that bind lists to one key. -/
def listsText : Text := "a: [x, y]\n---\na: [z]\n"

def listsHost : Host where
  tree := ⟨[(["ws"], .directory), (["ws", "c.yml"], .file (listsText.map Nat.toUInt8))]⟩
  workingDirectory := ["ws"]
  environment := []

/-- A document that binds a list of texts to one key. -/
def listDocument (key : Text) (items : List Text) : Yaml.Document :=
  ⟨.map [(.text key, .list (items.map .text))], false⟩

/-- What was read are documents that bind two texts and one text to `a`. -/
def holdsLists : Except Fault (List Yaml.Document) → Bool
  | .ok [⟨.map [(.text a, .list [.text x, .text y])], false⟩,
      ⟨.map [(.text b, .list [.text z])], false⟩] =>
    a == "a" && x == "x" && y == "y" && b == "a" && z == "z"
  | _ => false

theorem eq_of_holdsLists {result : Except Fault (List Yaml.Document)} (h : holdsLists result = true) :
    result = .ok [listDocument "a" ["x", "y"], listDocument "a" ["z"]] := by
  unfold holdsLists at h
  split at h
  · simp only [Bool.and_eq_true, beq_iff_eq] at h
    obtain ⟨⟨⟨⟨rfl, rfl⟩, rfl⟩, rfl⟩, rfl⟩ := h
    rfl
  · cases h

theorem binds_listDocument {key : Text} {items : List Text} (hitems : items ≠ []) :
    (listDocument key items).value.Binds key (some (.list (items.map .text))) := by
  have hpart : Value.part? [] (listDocument key items).value [0] =
      some (key, .list (items.map .text)) := rfl
  refine .items hpart (by simpa using hitems) (by simp [Value.isLeaf]) fun other _ => ?_
  refine .of_parts rfl fun position k x hx => ?_
  cases position with
  | zero => exact .of_apart fun path => List.prefix_append [0] path
  | succ position => simp [listDocument, Value.parts] at hx

/-- The second item of the first document is still there, and so it is not the list of the second. -/
theorem get_ofFile_second_item :
    ∃ b, ofFile listsHost "c.yml" defaultLoaders none = .ok b
      ∧ ∀ default, b.get listsHost "a" default = .list [.text "z", .text "y"]
        ∧ b.get listsHost "a" default ≠ .list [.text "z"] := by
  have hdocuments : (Handle.file "c.yml").read listsHost >>= listsHost.readYaml =
      .ok [listDocument "a" ["x", "y"], listDocument "a" ["z"]] :=
    eq_of_holdsLists (by decide +kernel)
  have hbinds : List.Forall₂ (fun d => Value.Binds d.value "a")
      [listDocument "a" ["x", "y"], listDocument "a" ["z"]]
      [some (.list [.text "x", .text "y"]), some (.list [.text "z"])] :=
    .cons (binds_listDocument (by simp)) (.cons (binds_listDocument (by simp)) .nil)
  obtain ⟨b, hb, hget⟩ := @get_ofFile_documents listsHost "c.yml" defaultLoaders 1 "yml" _ "a" rfl
    hdocuments (by simp [listDocument, Value.isTruthy]) _ [.list [.text "x", .text "y"]]
    (.list [.text "z"]) hbinds rfl none
  refine ⟨b, hb, fun default => ⟨(hget default).1, fun heq => ?_⟩⟩
  rcases (hget default).2.mp heq with hleaf | hshorter
  · cases hleaf
  · exact absurd (hshorter _ (List.mem_singleton_self _)).2 (by decide)

end Binder

end ConfigLocator
