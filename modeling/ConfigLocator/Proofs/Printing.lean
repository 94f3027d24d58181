import ConfigLocator.Proofs.DocumentFaults
import ConfigLocator.Proofs.Existence
import ConfigLocator.Proofs.FileNames
import ConfigLocator.Proofs.NameOverride

/-!
# What a command prints

A command that ends with a fault of resolution has printed nothing, and one that ends well has printed
every result with, on request, the properties of each resource that is there
(`CommandLine.run_all_or_nothing`).

The lines are printed one result after the other, so a fault in their midst would leave some of them
behind. But no fault of resolution comes up there: a resource is read only if it exists, and the
loaders of a command fail plainly where YAML is read so (`CommandLine.printResults_cons_cases`).
-/

namespace ConfigLocator

/-! ## Loaders of what is found -/

namespace StandardResolver

variable {r : StandardResolver} {host : Host}

theorem loader_mem_of_fileReference {l : Location} {file : Text} {profile : Option Text}
    {x : Reference} (h : r.fileReference l file profile = .ok x) : x.loader ∈ r.loaders := by
  obtain ⟨found, hfound, h⟩ := bind_eq_ok_iff.mp h
  cases found with
  | none => cases h
  | some pair =>
      cases h
      exact (Loader.mem_of_findExtension? hfound).2.1

/-- A reference is read by one of the loaders of the resolver. -/
theorem loader_mem_of_mem_references {parent : Option Reference} {t : Target} {refs : References}
    {x : Reference} (h : r.references parent t = .ok refs) (hx : x ∈ refs.items) :
    x.loader ∈ r.loaders := by
  rcases references_eq_ok h with ⟨-, hdirectory⟩ | ⟨-, y, hfile, hitems⟩
  · obtain ⟨name, -, pairs, hpairs, pair, hpair, rfl⟩ := mem_directoryReferences hdirectory hx
    exact (Loader.mem_of_candidates hpairs hpair).1
  · rw [hitems, List.mem_singleton] at hx
    subst hx
    exact loader_mem_of_fileReference hfile

theorem Returned.loader_mem {x : Resource} (h : r.Returned host x) :
    x.reference.loader ∈ r.loaders := by
  obtain ⟨parent, t, hfound⟩ := h.foundFor
  cases hfound with
  | probed hrefs hreference => exact loader_mem_of_mem_references hrefs hreference
  | placeholder hrefs hreference => exact loader_mem_of_mem_references hrefs hreference

end StandardResolver

/-- A resource that is there is read without a fault of resolution. -/
theorem Resource.failsPlainly_load {host : Host} {x : Resource}
    (hloader : ∀ name handle, FailsPlainly (x.reference.loader.load host name handle))
    (hexists : x.handle.exists? host = .ok true) (location : Option Location) :
    FailsPlainly (x.load host location) := by
  unfold load
  rw [hexists]
  exact (failsPlainly_ok []).ite (hloader _ _)

namespace CommandLine

variable {host : Host} {o : Options} {load : Bool} {result : Resolution} {rest : List Resolution}
  {x : Resource}

/-- A command resolves to resources that its own loaders read. -/
theorem exists_of_mem_resolveFor {results : List Resolution} (h : resolveFor host o = .ok results) :
    ∀ result ∈ results, ∃ x, result.item = .resource x ∧ x.reference.loader ∈ defaultLoaders := by
  obtain ⟨binder, -, h⟩ := bind_eq_ok_iff.mp h
  obtain ⟨registry, hregistry, h⟩ := bind_eq_ok_iff.mp h
  rw [registryOf, Bootstrap.registry_default] at hregistry
  cases hnames : binder.configNames host with
  | error fault =>
      rw [hnames] at hregistry
      cases hregistry
  | ok names =>
      rw [hnames] at hregistry
      cases hregistry
      cases hlocation : Location.of? o.location (some commandOrigin) with
      | none =>
          rw [hlocation] at h
          cases h
          simp
      | some l =>
          rw [hlocation] at h
          intro result hresult
          obtain ⟨x, hitem, hreturned⟩ := Registry.returned_of_resolveWith h result hresult
          exact ⟨x, hitem, hreturned.loader_mem⟩

/-! ## One result -/

/-- What is printed for a result: its description, and then the properties of its sources if they are
asked for and the resource is there. -/
inductive Prints (host : Host) (load : Bool) (result : Resolution) : List Text → Prop
  | described {x : Resource} {line : Text} (hitem : result.item = .resource x)
      (hline : describe host result.isProfileSpecific x = .ok line)
      (hquiet : load = true → x.handle.exists? host = .ok false) :
      Prints host load result [line]
  | loaded {x : Resource} {line : Text} {sources : List Source}
      (hitem : result.item = .resource x)
      (hline : describe host result.isProfileSpecific x = .ok line) (hload : load = true)
      (hexists : x.handle.exists? host = .ok true)
      (hsources : x.load host (some result.location) = .ok sources) :
      Prints host load result (line :: propertyLines sources)

theorem failsPlainly_describe (host : Host) (isProfileSpecific : Bool) (x : Resource) :
    FailsPlainly (describe host isProfileSpecific x) := by
  unfold describe
  refine (failsPlainly_ok _).ite ?_
  exact FailsPlainly.bind (fun fault => Handle.isResolution_of_exists?) fun isThere =>
    (failsPlainly_ok _).ite (failsPlainly_ok _)

theorem failsPlainly_loadedLines (hyaml : host.ReadsYamlPlainly)
    (hloader : x.reference.loader ∈ defaultLoaders) :
    FailsPlainly (loadedLines host result x) := by
  intro fault hfault
  rcases bind_eq_error_iff.mp hfault with hrefused | ⟨isThere, hexists, hfault⟩
  · exact Handle.isResolution_of_exists? hrefused
  · cases isThere with
    | false => cases hfault
    | true =>
        have hload := Resource.failsPlainly_load (Loader.readPlainly_defaultLoaders hyaml _ hloader)
          hexists (some result.location)
        exact (hload.bind fun sources => failsPlainly_ok _) fault hfault

theorem loadedLines_eq_ok {lines : List Text} (h : loadedLines host result x = .ok lines) :
    (x.handle.exists? host = .ok false ∧ lines = [])
      ∨ (x.handle.exists? host = .ok true
        ∧ ∃ sources, x.load host (some result.location) = .ok sources
          ∧ lines = propertyLines sources) := by
  obtain ⟨isThere, hexists, h⟩ := bind_eq_ok_iff.mp h
  cases isThere with
  | false =>
      cases h
      exact Or.inl ⟨hexists, rfl⟩
  | true =>
      obtain ⟨sources, hsources, h⟩ := bind_eq_ok_iff.mp h
      cases h
      exact Or.inr ⟨hexists, sources, hsources, rfl⟩

theorem printResults_cons (hitem : result.item = .resource x) :
    printResults host load (result :: rest) =
      .step (describe host result.isProfileSpecific x) fun line =>
        .before [line] <|
          .step (if load then loadedLines host result x else .ok []) fun lines =>
            (printResults host load rest).before lines := by
  rw [printResults, hitem]

/-- A result ends the printing with a plain fault, or it is printed and the rest follows. -/
theorem printResults_cons_cases (hyaml : host.ReadsYamlPlainly) (hitem : result.item = .resource x)
    (hloader : x.reference.loader ∈ defaultLoaders) :
    (∃ fault, (printResults host load (result :: rest)).fault = some fault
        ∧ fault.isResolution = false)
      ∨ ∃ lines, Prints host load result lines
        ∧ printResults host load (result :: rest) = (printResults host load rest).before lines := by
  rw [printResults_cons hitem]
  cases hline : describe host result.isProfileSpecific x with
  | error fault => exact Or.inl ⟨fault, rfl, failsPlainly_describe host _ x fault hline⟩
  | ok line =>
      cases hload : load with
      | false => exact Or.inr ⟨[line], .described hitem hline (by simp), rfl⟩
      | true =>
          cases hlines : loadedLines host result x with
          | error fault => 
              exact Or.inl ⟨fault, rfl, failsPlainly_loadedLines hyaml hloader fault hlines⟩
          | ok lines =>
              right
              rcases loadedLines_eq_ok hlines with ⟨hexists, rfl⟩ | ⟨hexists, sources, hsources, rfl⟩
              · exact ⟨[line], .described hitem hline fun _ => hexists, rfl⟩
              · exact ⟨_, .loaded hitem hline rfl hexists hsources, rfl⟩

/-! ## All results -/

/-- Printing ends with a plain fault, or all is printed. -/
theorem printResults_cases (hyaml : host.ReadsYamlPlainly) {results : List Resolution}
    (h : ∀ result ∈ results, ∃ x, result.item = .resource x ∧ x.reference.loader ∈ defaultLoaders) :
    (∃ fault, (printResults host load results).fault = some fault ∧ fault.isResolution = false)
      ∨ ∃ blocks, List.Forall₂ (Prints host load) results blocks
        ∧ printResults host load results = ⟨blocks.flatten, none⟩ := by
  induction results with
  | nil => exact Or.inr ⟨[], .nil, rfl⟩
  | cons result rest ih =>
      obtain ⟨⟨x, hitem, hloader⟩, hrest⟩ := List.forall_mem_cons.mp h
      rcases printResults_cons_cases hyaml hitem hloader with hfault | ⟨lines, hlines, hfirst⟩
      · exact Or.inl hfault
      · rw [hfirst]
        rcases ih hrest with hlater | ⟨blocks, hblocks, hlater⟩
        · exact Or.inl hlater
        · exact Or.inr ⟨lines :: blocks, .cons hlines hblocks, by rw [hlater]; rfl⟩

/-- A command that fails prints no result, and one that does not prints all of them. -/
theorem run_all_or_nothing (host : Host) (hyaml : host.ReadsYamlPlainly) (o : Options) :
    ((outcomeOf (run host o)).exit = .ok 1 → (outcomeOf (run host o)).output = [])
    ∧ ((outcomeOf (run host o)).exit = .ok 0 →
      ∃ results, resolveFor host o = .ok results
        ∧ ∃ blocks, List.Forall₂ (Prints host o.load) results blocks
          ∧ (outcomeOf (run host o)).output = asLines blocks.flatten) := by
  unfold run
  cases hresults : resolveFor host o with
  | error fault =>
      -- nothing is printed before the results are known
      rw [Transcript.step, outcomeOf]
      cases hfault : fault.isResolution <;> simp [hfault, asLines]
  | ok results =>
      rcases printResults_cases hyaml (exists_of_mem_resolveFor hresults) with
        ⟨fault, hfault, hplain⟩ | ⟨blocks, hblocks, hprinted⟩
      · rw [Transcript.step, outcomeOf, hfault]
        simp [hplain]
      · rw [Transcript.step, hprinted]
        exact ⟨fun hexit => (nomatch hexit), fun _ => ⟨results, rfl, blocks, hblocks, rfl⟩⟩

/-- Reads the file of settings itself. -/
def loadOptions : Options := ⟨"c.properties", none, [], [], true⟩

/-- A file with two properties is printed, and they with it. -/
theorem run_all_or_nothing_names :
    ∃ results, resolveFor namesHost loadOptions = .ok results
      ∧ ∃ blocks, List.Forall₂ (Prints namesHost true) results blocks
        ∧ asLines ["file [/ws/c.properties]", "    config.name[0] = a", "    config.name[1] = b"] =
          asLines blocks.flatten := by
  have hends : (outcomeOf (run namesHost loadOptions)).exit.toOption = some 0 := by decide +kernel
  have houtput : (outcomeOf (run namesHost loadOptions)).output =
      asLines ["file [/ws/c.properties]", "    config.name[0] = a", "    config.name[1] = b"] := by
    decide +kernel
  have hexit : (outcomeOf (run namesHost loadOptions)).exit = .ok 0 := by
    cases h : (outcomeOf (run namesHost loadOptions)).exit with
    | error fault =>
        rw [h] at hends
        cases hends
    | ok code =>
        rw [h] at hends
        exact congrArg Except.ok (Option.some.inj hends)
  rw [← houtput]
  exact (run_all_or_nothing namesHost (Host.readsYamlPlainly_of_eq rfl) loadOptions).2 hexit

end CommandLine

end ConfigLocator
