import ConfigLocator.Document.Yaml.Node

/-!
# Reading nodes

A reader of YAML nodes has one fault of its own, that the tokens make no document. Any other fault
with which it ends is the one behind the tokens, which no step of reading changes
(`Reading.Sound`).
-/

namespace ConfigLocator

namespace Yaml

namespace Reading

/-- The fault behind the tokens is kept, and a failure is either that or of the reader's own kind. -/
structure Sound {α : Type} (read : Reading α) : Prop where
  keeps : ∀ {reader a next}, read reader = .ok (a, next) → next.ending = reader.ending
  fails : ∀ {reader fault}, read reader = .error fault → fault = .yaml ∨ fault = reader.ending

variable {α β : Type} {read : Reading α}

theorem sound_pure (a : α) : Sound (pure a) where
  keeps h := by
    cases h
    rfl
  fails h := by cases h

theorem sound_throw : Sound (throw .yaml : Reading α) where
  keeps h := by cases h
  fails h := by
    cases h
    exact Or.inl rfl

theorem Sound.bind {next : α → Reading β} (h : Sound read) (hnext : ∀ a, Sound (next a)) :
    Sound (read >>= next) where
  keeps {reader b last} hrun := by
    change (read reader >>= fun p => next p.1 p.2) = .ok (b, last) at hrun
    cases hread : read reader with
    | error fault =>
        rw [hread] at hrun
        cases hrun
    | ok p =>
        rw [hread] at hrun
        exact ((hnext p.1).keeps hrun).trans (h.keeps hread)
  fails {reader fault} hrun := by
    change (read reader >>= fun p => next p.1 p.2) = .error fault at hrun
    cases hread : read reader with
    | error original =>
        rw [hread] at hrun
        cases hrun
        exact h.fails hread
    | ok p =>
        rw [hread] at hrun
        rw [← h.keeps hread]
        exact (hnext p.1).fails hrun

theorem sound_get : Sound (get : Reading Reader) where
  keeps h := by
    cases h
    rfl
  fails h := by cases h

theorem sound_modify {f : Reader → Reader} (h : ∀ reader, (f reader).ending = reader.ending) :
    Sound (modify f : Reading Unit) where
  keeps hrun := by
    cases hrun
    exact h _
  fails hrun := by cases hrun

end Reading

open Reading

namespace Reader

/-! ## Single tokens -/

theorem sound_peek : Sound peek where
  keeps {reader a next} h := by
    obtain ⟨tokens, ending, handles, anchors⟩ := reader
    cases tokens <;> cases h
    rfl
  fails {reader fault} h := by
    obtain ⟨tokens, ending, handles, anchors⟩ := reader
    cases tokens <;> cases h
    exact Or.inr rfl

theorem sound_skip : Sound skip := sound_modify fun _ => rfl

theorem sound_skipIf (p : Token → Bool) : Sound (skipIf p) := by
  refine sound_peek.bind fun token => ?_
  split
  · exact sound_skip.bind fun _ => sound_pure true
  · exact sound_pure false

/-! ## Tags and anchors -/

theorem sound_fullName (name : TagName) : Sound (fullName name) := by
  unfold fullName
  split
  · exact sound_pure _
  · refine sound_get.bind fun reader => ?_
    split
    · exact sound_pure _
    · exact sound_throw

theorem sound_anchorHere : Sound anchorHere := by
  refine sound_peek.bind fun token => ?_
  split
  · exact sound_skip.bind fun _ => sound_pure _
  · exact sound_pure none

theorem sound_tagHere : Sound tagHere := by
  refine sound_peek.bind fun token => ?_
  split
  · exact sound_skip.bind fun _ => sound_pure _
  · exact sound_pure none

theorem sound_properties : Sound properties := by
  refine sound_anchorHere.bind fun anchor => ?_
  split
  · exact sound_tagHere.bind fun tag => sound_pure _
  · refine sound_tagHere.bind fun tag => ?_
    split
    · exact sound_anchorHere.bind fun anchor => sound_pure _
    · exact sound_pure _

theorem sound_aliased (name : Text) : Sound (aliased name) := by
  refine sound_get.bind fun reader => ?_
  split
  · exact sound_pure _
  · exact sound_pure _
  · exact sound_throw

theorem sound_declare (anchor : Option Text) : Sound (declare anchor) := by
  unfold declare
  split
  · exact sound_pure _
  · refine sound_get.bind fun reader => ?_
    split
    · exact sound_throw
    · exact sound_modify fun _ => rfl

theorem sound_define (anchor : Option Text) (node : Node) : Sound (define anchor node) := by
  unfold define
  split
  · exact sound_pure node
  · refine Sound.bind (sound_modify ?_) fun _ => sound_pure node
    exact fun _ => rfl

/-! ## Grammar -/

theorem sound_emptyBefore (ends : Token → Bool) {read : Reading Node} (h : Sound read) :
    Sound (emptyBefore ends read) := by
  refine sound_peek.bind fun token => ?_
  split
  · exact sound_pure _
  · exact h

theorem sound_comma (isFirst : Bool) : Sound (comma isFirst) := by
  unfold comma
  split
  · refine (sound_skipIf isFlowEntry).bind fun skipped => ?_
    split
    · exact sound_throw
    · exact sound_pure _
  · exact sound_pure _

theorem sound_missing (anchor name : Option Text) : Sound (node.missing anchor name) := by
  unfold node.missing
  split
  · exact sound_throw
  · exact sound_define anchor _

/-- Every reader of the grammar is sound with so much fuel. -/
structure SoundAt (fuel : Nat) : Prop where
  node : ∀ inBlock mayBeFlush, Sound (node fuel inBlock mayBeFlush)
  blockItems : Sound (blockItems fuel)
  flushItems : Sound (flushItems fuel)
  blockEntries : Sound (blockEntries fuel)
  flowItems : ∀ isFirst, Sound (flowItems fuel isFirst)
  flowEntry : ∀ ends, Sound (flowEntry fuel ends)
  flowEntries : ∀ isFirst, Sound (flowEntries fuel isFirst)

variable {fuel : Nat}

theorem SoundAt.blockItems_succ (h : SoundAt fuel) : Sound (Reader.blockItems (fuel + 1)) := by
  refine sound_peek.bind fun token => ?_
  split
  · exact sound_skip.bind fun _ =>
      (sound_emptyBefore endsBlockItem (h.node true false)).bind fun item =>
        h.blockItems.bind fun items => sound_pure _
  · exact sound_skip.bind fun _ => sound_pure _
  · exact sound_throw

theorem SoundAt.flushItems_succ (h : SoundAt fuel) : Sound (Reader.flushItems (fuel + 1)) := by
  refine sound_peek.bind fun token => ?_
  split
  · exact sound_skip.bind fun _ =>
      (sound_emptyBefore endsFlushItem (h.node true false)).bind fun item =>
        h.flushItems.bind fun items => sound_pure _
  · exact sound_pure _

theorem SoundAt.blockEntries_succ (h : SoundAt fuel) : Sound (Reader.blockEntries (fuel + 1)) := by
  have hpart : Sound (emptyBefore endsBlockPart (Reader.node fuel true true)) :=
    sound_emptyBefore endsBlockPart (h.node true true)
  refine sound_peek.bind fun token => ?_
  split
  · refine sound_skip.bind fun _ => hpart.bind fun key => (sound_skipIf isValueMark).bind fun marked => ?_
    split
    · exact hpart.bind fun value => h.blockEntries.bind fun entries => sound_pure _
    · exact (sound_pure _).bind fun value => h.blockEntries.bind fun entries => sound_pure _
  · exact sound_skip.bind fun _ => sound_pure _
  · exact sound_throw

theorem SoundAt.flowEntry_succ (h : SoundAt fuel) (ends : Token → Bool) :
    Sound (Reader.flowEntry (fuel + 1) ends) := by
  have hpart : ∀ stops, Sound (emptyBefore stops (Reader.node fuel false false)) := fun stops =>
    sound_emptyBefore stops (h.node false false)
  refine (hpart _).bind fun key => (sound_skipIf isValueMark).bind fun marked => ?_
  split
  · exact (hpart ends).bind fun value => sound_pure _
  · exact (sound_pure _).bind fun value => sound_pure _

theorem SoundAt.flowItems_succ (h : SoundAt fuel) (isFirst : Bool) :
    Sound (Reader.flowItems (fuel + 1) isFirst) := by
  refine sound_peek.bind fun token => ?_
  split
  · exact sound_skip.bind fun _ => sound_pure _
  · refine (sound_comma isFirst).bind fun _ => sound_peek.bind fun token => ?_
    split
    · exact sound_skip.bind fun _ => sound_pure _
    · exact sound_skip.bind fun _ => (h.flowEntry endsFlowItem).bind fun entry =>
        (h.flowItems false).bind fun items => sound_pure _
    · exact (h.node false false).bind fun item => (h.flowItems false).bind fun items => sound_pure _

theorem SoundAt.flowEntries_succ (h : SoundAt fuel) (isFirst : Bool) :
    Sound (Reader.flowEntries (fuel + 1) isFirst) := by
  refine sound_peek.bind fun token => ?_
  split
  · exact sound_skip.bind fun _ => sound_pure _
  · refine (sound_comma isFirst).bind fun _ => sound_peek.bind fun token => ?_
    split
    · exact sound_skip.bind fun _ => sound_pure _
    · exact sound_skip.bind fun _ => (h.flowEntry endsFlowPart).bind fun entry =>
        (h.flowEntries false).bind fun entries => sound_pure _
    · exact (h.node false false).bind fun key =>
        (h.flowEntries false).bind fun entries => sound_pure _

theorem SoundAt.node_succ (h : SoundAt fuel) (inBlock mayBeFlush : Bool) :
    Sound (Reader.node (fuel + 1) inBlock mayBeFlush) := by
  refine sound_peek.bind fun token => ?_
  split
  · exact sound_skip.bind fun _ => sound_aliased _
  · refine sound_properties.bind fun written => ?_
    obtain ⟨anchor, tagName⟩ := written
    have hname : Sound (tagName.mapM fullName) := by
      cases tagName with
      | none => exact sound_pure none
      | some name => exact (sound_fullName name).bind fun full => sound_pure (some full)
    refine hname.bind fun name => sound_peek.bind fun token => (sound_declare anchor).bind fun _ => ?_
    split
    · exact sound_skip.bind fun _ => sound_define anchor _
    · exact sound_skip.bind fun _ => (h.flowItems true).bind fun items => sound_define anchor _
    · exact sound_skip.bind fun _ => (h.flowEntries true).bind fun entries => sound_define anchor _
    · split
      · exact h.flushItems.bind fun items => sound_define anchor _
      · exact sound_missing anchor name
    · split
      · exact sound_skip.bind fun _ => h.blockItems.bind fun items => sound_define anchor _
      · exact sound_missing anchor name
    · split
      · exact sound_skip.bind fun _ => h.blockEntries.bind fun entries => sound_define anchor _
      · exact sound_missing anchor name
    · exact sound_missing anchor name

theorem soundAt (fuel : Nat) : SoundAt fuel := by
  induction fuel with
  | zero =>
      exact {
        node := fun _ _ => sound_throw
        blockItems := sound_throw
        flushItems := sound_throw
        blockEntries := sound_throw
        flowItems := fun _ => sound_throw
        flowEntry := fun _ => sound_throw
        flowEntries := fun _ => sound_throw }
  | succ fuel ih =>
      exact {
        node := ih.node_succ
        blockItems := ih.blockItems_succ
        flushItems := ih.flushItems_succ
        blockEntries := ih.blockEntries_succ
        flowItems := ih.flowItems_succ
        flowEntry := ih.flowEntry_succ
        flowEntries := ih.flowEntries_succ }

theorem sound_root : Sound root := sound_get.bind fun _ => (soundAt _).node true false

/-! ## Documents -/

theorem sound_directives (fuel : Nat) (hasVersion : Bool) (handles : List (Text × Text)) :
    Sound (directives fuel hasVersion handles) := by
  induction fuel generalizing hasVersion handles with
  | zero => exact sound_pure handles
  | succ fuel ih =>
      refine sound_peek.bind fun token => ?_
      split
      · refine sound_skip.bind fun _ => ?_
        split
        · exact sound_throw
        · exact ih true handles
      · refine sound_skip.bind fun _ => ?_
        split
        · exact sound_throw
        · exact ih hasVersion _
      · exact sound_skip.bind fun _ => ih hasVersion handles
      · exact sound_pure handles

theorem sound_skipDocumentEnds (fuel : Nat) : Sound (skipDocumentEnds fuel) := by
  induction fuel with
  | zero => exact sound_pure ()
  | succ fuel ih =>
      refine (sound_skipIf isDocumentEnd).bind fun skipped => ?_
      split
      · exact ih
      · exact sound_pure ()

theorem sound_startsDocument (handles : List (Text × Text)) : Sound (startsDocument handles) :=
  sound_modify fun _ => rfl

/-- A document that may be closed by its mark. -/
theorem sound_closed {read : Reading Node} (h : Sound read) :
    Sound (do
      let content ← read
      discard (skipIf isDocumentEnd)
      return some content) :=
  h.bind fun content => ((sound_skipIf isDocumentEnd).bind fun _ => sound_pure ()).bind fun _ =>
    sound_pure (some content)

theorem sound_markedDocument : Sound markedDocument := by
  refine sound_get.bind fun reader => (sound_skipDocumentEnds _).bind fun _ =>
    sound_peek.bind fun token => ?_
  split
  · exact sound_pure none
  · refine sound_get.bind fun reader => (sound_directives _ false []).bind fun handles =>
      (sound_startsDocument _).bind fun _ => sound_peek.bind fun token => ?_
    split
    · exact sound_skip.bind fun _ => sound_closed (sound_emptyBefore isBoundary sound_root)
    · exact sound_throw

/-- Reading a document fails with the reader's own fault or with the one behind the tokens. -/
theorem sound_document (isFirst : Bool) : Sound (document isFirst) := by
  refine sound_peek.bind fun token => ?_
  split
  · exact (sound_startsDocument defaultHandles).bind fun _ => sound_closed sound_root
  · exact sound_markedDocument

end Reader

end Yaml

end ConfigLocator
