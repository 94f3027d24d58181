import ConfigLocator.Document.Loaders
import ConfigLocator.Proofs.NodeReader
import ConfigLocator.Proofs.Refusal

/-!
# Faults of documents

A document that cannot be read is no fault of resolution: whatever is wrong with its bytes, its text
or its values, the two loaders end with a fault of another kind (`Loader.readPlainly_defaultLoaders`),
as long as the host reads YAML so (`Host.ReadsYamlPlainly`). The reader of `ConfigLocator.Document.Yaml`
does (`Yaml.failsPlainly_readDocuments`): its steps are written in `Except` and `StateT`, so each of them
is shown to fail plainly from the steps that it is made of.
-/

namespace ConfigLocator

/-! ## Plain failures -/

/-- Whatever fault the step ends with, it is none of resolution. -/
def FailsPlainly {α : Type} (e : Except Fault α) : Prop :=
  ∀ fault, e = .error fault → fault.isResolution = false

section FailsPlainly

variable {α β : Type}

theorem failsPlainly_ok (a : α) : FailsPlainly (.ok a) := fun _ h => by cases h

theorem failsPlainly_error {fault : Fault} (h : fault.isResolution = false) :
    FailsPlainly (.error fault : Except Fault α) := by
  intro fault' hfault
  cases hfault
  exact h

theorem FailsPlainly.bind {e : Except Fault α} {next : α → Except Fault β} (h : FailsPlainly e)
    (hnext : ∀ a, FailsPlainly (next a)) : FailsPlainly (e >>= next) := by
  intro fault hfault
  rcases bind_eq_error_iff.mp hfault with hfirst | ⟨a, -, hlater⟩
  · exact h fault hfirst
  · exact hnext a fault hlater

theorem FailsPlainly.ite {p : Prop} [Decidable p] {e e' : Except Fault α} (h : FailsPlainly e)
    (h' : FailsPlainly e') : FailsPlainly (if p then e else e') := by
  split
  · exact h
  · exact h'

end FailsPlainly

theorem Handle.failsPlainly_read (handle : Handle) (host : Host) :
    FailsPlainly (handle.read host) := by
  cases handle with
  | file path =>
      unfold read
      dsimp only
      split
      · exact failsPlainly_ok _
      · exact failsPlainly_error rfl
  | package name path =>
      refine FailsPlainly.bind (fun fault => Host.isResolution_of_packageEntry?) fun entry => ?_
      split
      · exact failsPlainly_ok _
      · exact failsPlainly_error rfl

/-! ## Properties -/

theorem Properties.failsPlainly_read (t : Text) : FailsPlainly (read t) := by
  unfold read
  split
  · exact failsPlainly_ok _
  · exact failsPlainly_error rfl

namespace Markup

theorem failsPlainly_wellFormed {α : Type} (value : Option α) : FailsPlainly (wellFormed value) := by
  cases value with
  | none => exact failsPlainly_error rfl
  | some a => exact failsPlainly_ok a

theorem failsPlainly_checkedText (t : Text) : FailsPlainly (checkedText t) := by
  unfold checkedText
  split
  · exact failsPlainly_ok _
  · exact failsPlainly_error rfl

theorem Encoding.failsPlainly_singleByte (name : Text) : FailsPlainly (singleByte name) := by
  unfold singleByte
  dsimp only
  repeat' split
  all_goals first | exact failsPlainly_ok _ | exact failsPlainly_error rfl

theorem Encoding.failsPlainly_named (detected : Encoding) (name : Text) :
    FailsPlainly (named detected name) := by
  have hmarkup : FailsPlainly (.error .markup : Except Fault Encoding) := failsPlainly_error rfl
  unfold named
  dsimp only
  split
  · exact (failsPlainly_ok _).ite (hmarkup.ite ((failsPlainly_singleByte name).bind fun _ => hmarkup))
  · exact (failsPlainly_ok _).ite (hmarkup.ite (failsPlainly_singleByte name))

theorem Source.failsPlainly_ofBytes (content : List UInt8) : FailsPlainly (ofBytes content) := by
  unfold ofBytes
  dsimp only
  split
  · exact (failsPlainly_wellFormed _).bind fun t => (failsPlainly_checkedText t).bind fun _ =>
      failsPlainly_ok _
  · refine (failsPlainly_wellFormed _).bind fun parts => (failsPlainly_wellFormed _).bind
      fun declaration => ?_
    split
    · exact (Encoding.failsPlainly_named _ _).bind fun encoding => (failsPlainly_wellFormed _).bind
        fun t => (failsPlainly_checkedText _).bind fun _ => failsPlainly_ok _
    · exact (failsPlainly_ok _).bind fun encoding => (failsPlainly_wellFormed _).bind
        fun t => (failsPlainly_checkedText _).bind fun _ => failsPlainly_ok _

theorem failsPlainly_bindEntries (bound : PropertyMap) (entries : List Entry) :
    FailsPlainly (bindEntries bound entries) := by
  induction entries generalizing bound with
  | nil => exact failsPlainly_ok bound
  | cons entry rest ih =>
      unfold bindEntries
      split
      · exact ih _
      · exact failsPlainly_error rfl

theorem Content.failsPlainly_properties (root : Content Text) : FailsPlainly root.properties := by
  cases root with
  | text t => exact failsPlainly_error rfl
  | element name attributes content =>
      rw [properties]
      exact (failsPlainly_bindEntries _ _).ite (failsPlainly_error rfl)

theorem failsPlainly_readProperties (content : List UInt8) :
    FailsPlainly (readProperties content) := by
  refine (Source.failsPlainly_ofBytes content).bind fun source => ?_
  split
  · exact Content.failsPlainly_properties _
  · exact failsPlainly_error rfl

end Markup

theorem failsPlainly_loadProperties (host : Host) (name : Text) (handle : Handle) :
    FailsPlainly (loadProperties host name handle) := by
  refine (handle.failsPlainly_read host).bind fun content => ?_
  exact ((Markup.failsPlainly_readProperties content).bind fun properties => failsPlainly_ok _).ite
    ((Properties.failsPlainly_read _).bind fun properties => failsPlainly_ok _)

/-! ## YAML tokens -/

namespace Yaml

theorem failsPlainly_named {α : Type} (value : Option α) : FailsPlainly (named value) := by
  cases value with
  | none => exact failsPlainly_error rfl
  | some a => exact failsPlainly_ok a

theorem failsPlainly_characterOf (length : Nat) (t : Text) : FailsPlainly (characterOf length t) := by
  unfold characterOf
  dsimp only
  repeat' split
  all_goals first | exact failsPlainly_ok _ | exact failsPlainly_error rfl

theorem failsPlainly_quoted (isDouble : Bool) (gap : Gap) (t : Text) :
    FailsPlainly (quoted isDouble gap t) := by
  have hmore : ∀ {e : Except Fault (Text × Text)} (f : Text × Text → Text × Text),
      FailsPlainly e → FailsPlainly (e >>= fun p => pure (f p)) := fun f he =>
    he.bind fun p => failsPlainly_ok (f p)
  fun_induction quoted isDouble gap t
  -- the text ends too early, or an escape says nothing
  case case1 | case2 | case6 | case10 | case12 => exact failsPlainly_error rfl
  case case9 => exact failsPlainly_error (failsPlainly_characterOf _ _ _ ‹characterOf _ _ = .error _›)
  -- the closing quote
  case case5 | case14 | case16 => exact failsPlainly_ok _
  case case3 | case4 => assumption
  -- a character and what follows it
  all_goals
    rename_i ih
    exact hmore _ ih

namespace Tokenizer

variable (s : Tokenizer)

theorem failsPlainly_dropStale : FailsPlainly s.dropStale :=
  (failsPlainly_error rfl).ite (failsPlainly_ok _)

theorem failsPlainly_giveUp : FailsPlainly s.giveUp :=
  (failsPlainly_error rfl).ite (failsPlainly_ok _)

theorem failsPlainly_offerKey : FailsPlainly s.offerKey :=
  (s.failsPlainly_giveUp.bind fun _ => failsPlainly_ok _).ite (failsPlainly_ok _)

theorem failsPlainly_closeBlocks : FailsPlainly s.closeBlocks :=
  (failsPlainly_giveUp _).bind fun _ => failsPlainly_ok _

theorem failsPlainly_openFor (token : Token) : FailsPlainly (s.openFor token) :=
  (failsPlainly_ok _).ite ((failsPlainly_ok _).ite (failsPlainly_error rfl))

theorem failsPlainly_takeFinish : FailsPlainly s.takeFinish :=
  s.failsPlainly_closeBlocks.bind fun _ => failsPlainly_ok _

theorem failsPlainly_takeDirective : FailsPlainly s.takeDirective :=
  s.failsPlainly_closeBlocks.bind fun _ => (failsPlainly_named _).bind fun _ => failsPlainly_ok _

theorem failsPlainly_takeBound (token : Token) : FailsPlainly (s.takeBound token) :=
  s.failsPlainly_closeBlocks.bind fun _ => failsPlainly_ok _

theorem failsPlainly_takeFlowStart (token : Token) : FailsPlainly (s.takeFlowStart token) :=
  s.failsPlainly_offerKey.bind fun _ => failsPlainly_ok _

theorem failsPlainly_takeFlowEnd (token : Token) : FailsPlainly (s.takeFlowEnd token) :=
  s.failsPlainly_giveUp.bind fun _ => failsPlainly_ok _

theorem failsPlainly_takeFlowEntry : FailsPlainly s.takeFlowEntry :=
  s.failsPlainly_giveUp.bind fun _ => failsPlainly_ok _

theorem failsPlainly_takeBlockEntry : FailsPlainly s.takeBlockEntry :=
  (s.failsPlainly_openFor _).bind fun s => s.failsPlainly_giveUp.bind fun _ => failsPlainly_ok _

theorem failsPlainly_takeKey : FailsPlainly s.takeKey :=
  (s.failsPlainly_openFor _).bind fun s => s.failsPlainly_giveUp.bind fun _ => failsPlainly_ok _

theorem failsPlainly_takeValue : FailsPlainly s.takeValue := by
  unfold takeValue
  split
  · exact failsPlainly_ok _
  · exact (s.failsPlainly_openFor _).bind fun _ => failsPlainly_ok _

theorem failsPlainly_takeOffered {α : Type} (token : α → Token)
    {read : Text → Except Fault (α × Text)} (h : ∀ t, FailsPlainly (read t)) :
    FailsPlainly (s.takeOffered token read) :=
  s.failsPlainly_offerKey.bind fun s => (h s.place.rest).bind fun _ => failsPlainly_ok _

theorem failsPlainly_takeQuoted (isDouble : Bool) : FailsPlainly (s.takeQuoted isDouble) :=
  s.failsPlainly_takeOffered _ fun _ => failsPlainly_quoted isDouble _ _

theorem failsPlainly_takePlain : FailsPlainly s.takePlain :=
  s.failsPlainly_offerKey.bind fun _ => failsPlainly_ok _

theorem failsPlainly_takeBlockScalar (isFolded : Bool) :
    FailsPlainly (s.takeBlockScalar isFolded) :=
  (failsPlainly_giveUp _).bind fun _ => (failsPlainly_named _).bind fun _ => failsPlainly_ok _

theorem failsPlainly_step : FailsPlainly s.step := by
  refine (failsPlainly_dropStale _).bind fun s => ?_
  generalize s.unwind s.column = s
  dsimp only
  split
  · exact s.failsPlainly_takeFinish
  · refine .ite s.failsPlainly_takeDirective <| .ite (s.failsPlainly_takeBound _) <|
      .ite (s.failsPlainly_takeBound _) <| .ite (s.failsPlainly_takeFlowStart _) <|
      .ite (s.failsPlainly_takeFlowStart _) <| .ite (s.failsPlainly_takeFlowEnd _) <|
      .ite (s.failsPlainly_takeFlowEnd _) <| .ite s.failsPlainly_takeFlowEntry <|
      .ite s.failsPlainly_takeBlockEntry <| .ite s.failsPlainly_takeKey <|
      .ite s.failsPlainly_takeValue <| .ite ?_ <| .ite ?_ <| .ite ?_ <|
      .ite (s.failsPlainly_takeBlockScalar _) <| .ite (s.failsPlainly_takeBlockScalar _) <|
      .ite (s.failsPlainly_takeQuoted _) <| .ite (s.failsPlainly_takeQuoted _) <|
      .ite s.failsPlainly_takePlain (failsPlainly_error rfl)
    all_goals exact s.failsPlainly_takeOffered _ fun t => failsPlainly_named _

/-- The fault behind the tokens of a text is none of resolution. -/
theorem isResolution_ending_run (fuel : Nat) : (run fuel s).ending.isResolution = false := by
  induction fuel generalizing s with
  | zero => rfl
  | succ fuel ih =>
      unfold run
      split
      · split
        · rfl
        · exact ih _
      · rename_i hfault
        exact s.failsPlainly_step _ hfault

end Tokenizer

/-! ## Values of YAML nodes -/

theorem failsPlainly_scalar {α : Type} (make : α → Value) (e : Except ScalarFault α) :
    FailsPlainly (scalar make e) := by
  cases e with
  | ok a => exact failsPlainly_ok _
  | error fault => exact failsPlainly_error rfl

theorem Tag.failsPlainly_read (tag : Tag) (t : Text) : FailsPlainly (tag.read t) := by
  cases tag
  case null | text => exact failsPlainly_ok _
  case bool | int | float | timestamp => exact failsPlainly_scalar _ _
  case binary =>
    rw [read]
    split
    · exact (failsPlainly_ok _).ite (failsPlainly_error rfl)
    · exact failsPlainly_error rfl
  all_goals exact failsPlainly_error rfl

theorem Node.failsPlainly_readText (node : Node) (tag : Tag) : FailsPlainly (node.readText tag) := by
  unfold readText
  split
  · exact tag.failsPlainly_read _
  · exact (failsPlainly_error rfl).ite (tag.failsPlainly_read _)
  · exact failsPlainly_error rfl

/-! ## Building values -/

namespace Built

variable {α β : Type}

/-- The fault that counts is none of resolution. -/
def Plain (b : Built α) : Prop := ∀ level fault, b = .error (level, fault) → fault.isResolution = false

theorem plain_ok (a : α) : Plain (.ok a) := fun _ _ h => by cases h

theorem plain_fail (level : Nat) : Plain (fail level : Built α) := by
  intro _ _ h
  cases h
  rfl

theorem plain_onLevel (level : Nat) {e : Except Fault α} (h : FailsPlainly e) :
    Plain (onLevel level e) := by
  intro _ fault hfault
  cases e with
  | ok a => cases hfault
  | error original =>
      cases hfault
      exact h fault rfl

theorem Plain.map {b : Built α} (h : Plain b) (f : α → β) : Plain (b.map f) := by
  intro level fault hfault
  cases b with
  | ok a => cases hfault
  | error e =>
      cases hfault
      exact h level fault rfl

theorem Plain.both {a : Built α} {b : Built β} (ha : Plain a) (hb : Plain b) : Plain (a.both b) := by
  intro level fault hfault
  cases a with
  | ok x =>
      cases b with
      | ok y => cases hfault
      | error f =>
          cases hfault
          exact hb level fault rfl
  | error e =>
      cases b with
      | ok y =>
          cases hfault
          exact ha level fault rfl
      | error f =>
          rw [Built.both, Except.error.injEq] at hfault
          split at hfault
          · exact hb level fault (congrArg Except.error hfault)
          · exact ha level fault (congrArg Except.error hfault)

theorem plain_all {all : List (Built α)} (h : ∀ b ∈ all, Plain b) : Plain (Built.all all) := by
  induction all with
  | nil => exact plain_ok []
  | cons b rest ih =>
      obtain ⟨hb, hrest⟩ := List.forall_mem_cons.mp h
      exact (hb.both (ih hrest)).map _

end Built

open Built

namespace Node

theorem plain_buildKey (level : Nat) (key : Node) : Plain (buildKey level key) := by
  unfold buildKey
  split
  · exact plain_onLevel level (key.failsPlainly_readText _)
  · split
    · exact plain_fail level
    · exact plain_onLevel level (key.failsPlainly_readText _)

mutual

theorem plain_build (level : Nat) (node : Node) : Plain (build level node) := by
  unfold build
  split
  · exact (plain_all (plain_buildItems _ _)).map _
  · exact (plain_all (plain_buildPairs _ _)).map _
  · exact (plain_all (plain_buildPairs _ _)).map _
  · split
    · exact (plain_all (plain_entries _ _)).map _
    · exact plain_fail _
  · split
    · exact (plain_all (plain_entries _ _)).map _
    · exact plain_fail _
  · exact plain_ok _
  · split
    · exact plain_fail _
    · exact plain_onLevel level (failsPlainly_readText _ _)

theorem plain_buildItems (level : Nat) (items : List Node) :
    ∀ b ∈ buildItems level items, Plain b := by
  cases items with
  | nil => simp [buildItems]
  | cons node rest =>
      rw [buildItems]
      exact List.forall_mem_cons.mpr ⟨plain_build level node, plain_buildItems level rest⟩

theorem plain_buildPairs (level : Nat) (items : List Node) :
    ∀ b ∈ buildPairs level items, Plain b := by
  unfold buildPairs
  split
  · simp
  · exact List.forall_mem_cons.mpr
      ⟨((plain_build level _).both (plain_build level _)).map _, plain_buildPairs level _⟩
  · exact List.forall_mem_cons.mpr ⟨plain_fail level, plain_buildPairs level _⟩

theorem plain_entries (level : Nat) (entries : List (Node × Node)) :
    ∀ b ∈ mergedEntries level entries ++ ownEntries level entries, Plain b :=
  List.forall_mem_append.mpr ⟨plain_mergedEntries level entries, plain_ownEntries level entries⟩

theorem plain_ownEntries (level : Nat) (entries : List (Node × Node)) :
    ∀ b ∈ ownEntries level entries, Plain b := by
  match entries with
  | [] => simp [ownEntries]
  | (key, value) :: rest =>
      rw [ownEntries]
      split
      · exact plain_ownEntries level rest
      · exact List.forall_mem_cons.mpr
          ⟨(plain_buildKey level key).both (plain_build level value), plain_ownEntries level rest⟩

theorem plain_mergedEntries (level : Nat) (entries : List (Node × Node)) :
    ∀ b ∈ mergedEntries level entries, Plain b := by
  match entries with
  | [] => simp [mergedEntries]
  | (key, value) :: rest =>
      rw [mergedEntries]
      refine List.forall_mem_append.mpr ⟨?_, plain_mergedEntries level rest⟩
      split
      · exact plain_entriesOf level value
      · simp

theorem plain_entriesOf (level : Nat) (node : Node) : ∀ b ∈ entriesOf level node, Plain b := by
  unfold entriesOf
  split
  · exact plain_entries level _
  · exact plain_entriesOfAll level _
  · simp

theorem plain_entriesOfAll (level : Nat) (items : List Node) :
    ∀ b ∈ entriesOfAll level items, Plain b := by
  cases items with
  | nil => simp [entriesOfAll]
  | cons node rest =>
      rw [entriesOfAll]
      exact List.forall_mem_append.mpr ⟨plain_entriesOfAll level rest, plain_entriesOf level node⟩

end

end Node

/-! ## YAML documents -/

theorem Document.failsPlainly_ofNode (node : Node) : FailsPlainly (Document.ofNode node) := by
  unfold Document.ofNode
  split
  · exact failsPlainly_ok _
  · rename_i hfault
    exact failsPlainly_error (node.plain_build 0 _ _ hfault)

theorem failsPlainly_documentsFrom (fuel : Nat) (isFirst : Bool) (reader : Reader)
    (h : reader.ending.isResolution = false) : FailsPlainly (documentsFrom fuel isFirst reader) := by
  induction fuel generalizing isFirst reader with
  | zero => exact failsPlainly_error rfl
  | succ fuel ih =>
      intro fault hfault
      unfold documentsFrom at hfault
      rcases bind_eq_error_iff.mp hfault with hread | ⟨⟨node, next⟩, hread, hlater⟩
      · rcases (Reader.sound_document isFirst).fails hread with rfl | rfl
        · rfl
        · exact h
      · have hnext : next.ending.isResolution = false := by
          rw [(Reader.sound_document isFirst).keeps hread]
          exact h
        cases node with
        | none => cases hlater
        | some node =>
            exact ((Document.failsPlainly_ofNode node).bind fun document =>
              (ih false next hnext).bind fun later => failsPlainly_ok _) fault hlater

theorem failsPlainly_readDocuments (content : List UInt8) : FailsPlainly (readDocuments content) := by
  refine (failsPlainly_named _).bind fun t => .ite (failsPlainly_error rfl) ?_
  exact failsPlainly_documentsFrom _ true _ (Tokenizer.isResolution_ending_run _ _)

end Yaml

/-! ## Loaders -/

/-- No document fails with a fault of resolution. -/
def Host.ReadsYamlPlainly (host : Host) : Prop :=
  ∀ content, FailsPlainly (host.readYaml content)

/-- No loader fails with a fault of resolution when it reads a handle. -/
def Loader.ReadPlainly (host : Host) (loaders : List Loader) : Prop :=
  ∀ loader ∈ loaders, ∀ name handle, FailsPlainly (loader.load host name handle)

section Loaders

variable {host : Host}

theorem Host.readsYamlPlainly_of_eq (h : host.readYaml = Yaml.readDocuments) :
    host.ReadsYamlPlainly := by
  intro content
  rw [h]
  exact Yaml.failsPlainly_readDocuments content

theorem failsPlainly_documentSources (name : Text) (handle : Handle) (several : Bool)
    (index : Nat) (documents : List Yaml.Document) :
    FailsPlainly (documentSources host name handle several index documents) := by
  induction documents generalizing index with
  | nil => exact failsPlainly_ok []
  | cons document rest ih =>
      unfold documentSources
      split
      · exact .ite (failsPlainly_error rfl) ((ih _).bind fun _ => failsPlainly_ok _)
      · exact failsPlainly_error rfl

theorem failsPlainly_loadYaml (hyaml : host.ReadsYamlPlainly) (name : Text) (handle : Handle) :
    FailsPlainly (loadYaml host name handle) :=
  (handle.failsPlainly_read host).bind fun content =>
    (hyaml content).bind fun _ => failsPlainly_documentSources name handle _ 0 _

theorem Loader.readPlainly_defaultLoaders (hyaml : host.ReadsYamlPlainly) :
    ReadPlainly host defaultLoaders := by
  intro loader hloader name handle
  rcases List.mem_pair.mp hloader with rfl | rfl
  · exact failsPlainly_loadProperties host name handle
  · exact failsPlainly_loadYaml hyaml name handle

end Loaders

end ConfigLocator
