import Mathlib.Data.List.Nodup
import ConfigLocator.Blueprint
import ConfigLocator.Proofs.Outcome

/-!
# Offers next to a block

A recipe is run with what its block sets and, next to it, with what is offered from outside. Offers
come under names, and they are held back where the block uses the same keyword. A parameter that the
block fills by position has no keyword in the block, so an offer for it is passed on, and then the
parameter is filled twice. `Plan.Refuses` lists the names under which an offer spoils a block that
fits without it.

Every other offer does what it is meant to do (`Plan.Joins`): whatever the block sets stays as it is,
a parameter that is left gets what is offered under its name, and what is offered beyond the
parameters ends up in the rest (`Blueprint.instantiate_next_to_offers`).
-/

namespace ConfigLocator

/-! ## Arguments that fit -/

namespace Parameters

variable {α : Type} {p : Parameters} {positional : List α} {named more : List (Text × α)}

/-- Named arguments as they stand in a block. -/
def keyed (named : List (Text × α)) : List (Value × α) := named.map fun (key, a) => (.text key, a)

theorem keyed_append (named more : List (Text × α)) : keyed (named ++ more) = keyed named ++ keyed more :=
  List.map_append

/-- Keywords have to be texts. -/
theorem mapM_keywordText_eq_ok_iff {keywords : List (Value × α)} :
    (keywords.mapM fun (key, a) => do return (← keywordText key, a)) = Except.ok named ↔
      keywords = keyed named := by
  induction keywords generalizing named with
  | nil => cases named <;> simp [keyed, pure, Except.pure]
  | cons entry rest ih =>
      obtain ⟨key, a⟩ := entry
      rw [List.mapM_cons]
      simp only [bind_eq_ok_iff, ih, pure_eq_ok_iff]
      constructor
      · rintro ⟨first, ⟨t, ht, rfl⟩, later, rfl, rfl⟩
        cases key <;> cases ht
        rfl
      · intro h
        cases named with
        | nil => cases h
        | cons first later =>
            obtain ⟨hfirst, hlater⟩ := List.cons.inj h
            obtain ⟨rfl, rfl⟩ := Prod.mk.inj hfirst
            exact ⟨first, ⟨first.1, rfl, rfl⟩, later, hlater, rfl⟩

/-- Nothing is given too often or under a name that is not taken, and nothing is missing. -/
structure Fits (p : Parameters) (positional : List α) (named : List (Text × α)) : Prop where
  count : p.admitsCount positional.length = true
  admitted : ∀ x ∈ named, p.admits positional.length x.1 = true
  filled : ∀ name ∈ p.required, ∃ x ∈ (p.place positional named).bound, x.1 = name

theorem assign_of_fits (h : p.Fits positional named) :
    p.assign positional (keyed named) = .ok (p.place positional named) := by
  rw [assign, mapM_keywordText_eq_ok_iff.mpr rfl]
  refine if_pos ?_
  simp only [Bool.and_eq_true, List.all_eq_true, List.any_eq_true, beq_iff_eq]
  exact ⟨⟨h.count, h.admitted⟩, h.filled⟩

theorem assign_of_not_fits (h : ¬p.Fits positional named) :
    p.assign positional (keyed named) = .error (.blueprint .arguments) := by
  rw [assign, mapM_keywordText_eq_ok_iff.mpr rfl]
  refine if_neg fun htest => h ?_
  simp only [Bool.and_eq_true, List.all_eq_true, List.any_eq_true, beq_iff_eq] at htest
  exact ⟨htest.1.1, htest.1.2, htest.2⟩

theorem assign_eq_ok_iff {keywords : List (Value × α)} {call : Call α} :
    p.assign positional keywords = .ok call ↔
      ∃ named, keywords = keyed named ∧ p.Fits positional named ∧ call = p.place positional named := by
  constructor
  · intro h
    obtain ⟨named, hnamed, -⟩ := bind_eq_ok_iff.mp h
    obtain rfl := mapM_keywordText_eq_ok_iff.mp hnamed
    by_cases hfits : p.Fits positional named
    · rw [assign_of_fits hfits] at h
      exact ⟨named, rfl, hfits, (Except.ok.inj h).symm⟩
    · rw [assign_of_not_fits hfits] at h
      cases h
  · rintro ⟨named, rfl, hfits, rfl⟩
    exact assign_of_fits hfits

theorem bound_place_append :
    (p.place positional (named ++ more)).bound =
      (p.place positional named).bound ++ more.filter fun (key, _) => p.nameable.contains key := by
  simp [place]

theorem rest_place_append :
    (p.place positional (named ++ more)).rest =
      (p.place positional named).rest ++ more.filter fun (key, _) => !p.nameable.contains key := by
  simp [place]

/-- More keywords do no harm as long as each of them fits next to what is given by position. -/
theorem Fits.append_iff (h : p.Fits positional named) :
    p.Fits positional (named ++ more) ↔ ∀ x ∈ more, p.admits positional.length x.1 = true := by
  constructor
  · exact fun hmore x hx => hmore.admitted x (List.mem_append_right _ hx)
  · intro hmore
    refine ⟨h.count, fun x hx => ?_, fun name hname => ?_⟩
    · exact (List.mem_append.mp hx).elim (h.admitted x) (hmore x)
    · obtain ⟨x, hx, rfl⟩ := h.filled name hname
      exact ⟨x, bound_place_append ▸ List.mem_append_left _ hx, rfl⟩

/-- A keyword that names no parameter is admitted only where the rest is taken. -/
theorem Fits.takesRest_of_mem_rest (h : p.Fits positional named) {x : Text × α}
    (hx : x ∈ (p.place positional named).rest) : p.takesRest = true := by
  obtain ⟨hx, hname⟩ := List.mem_filter.mp hx
  have hadmitted := h.admitted x hx
  rw [admits, Bool.and_eq_true, if_neg (by simpa using hname)] at hadmitted
  exact hadmitted.2

end Parameters

/-! ## Plans with and without offers -/

namespace Blueprint

variable {κ β : Type} {catalog : Catalog κ β} {block : Value} {alternative : Option Text}
  {offers : List (Text × Argument κ)} {p : Plan κ β}

theorem any_same_keyed (named : List (Text × Argument κ)) (key : Text) :
    ((Parameters.keyed named).any fun (k, _) => k.same (.text key)) =
      (named.map (·.1)).contains key := by
  induction named with
  | nil => rfl
  | cons first rest ih =>
      rw [Parameters.keyed, List.map_cons, List.any_cons, ← Parameters.keyed, ih, List.map_cons,
        List.contains_cons]
      congr 1
      simp [Value.same, eq_comm]

theorem addOffers_cons (bound : List (Value × Argument κ)) (key : Text) (a : Argument κ) :
    addOffers bound ((key, a) :: offers) =
      addOffers
        (if bound.any fun (k, _) => k.same (.text key) then bound else bound ++ [(.text key, a)])
        offers := rfl

/-- What is offered under distinct names is added wherever the name is not a keyword yet. -/
theorem addOffers_keyed (named : List (Text × Argument κ)) (h : (offers.map (·.1)).Nodup) :
    addOffers (Parameters.keyed named) offers =
      Parameters.keyed (named ++ offers.filter fun o => !(named.map (·.1)).contains o.1) := by
  induction offers generalizing named with
  | nil => simp [addOffers]
  | cons offer rest ih =>
      obtain ⟨key, a⟩ := offer
      obtain ⟨hkey, hrest⟩ := List.nodup_cons.mp h
      rw [addOffers_cons, any_same_keyed, List.filter_cons]
      cases hset : (named.map (·.1)).contains key with
      | true => exact ih named hrest
      | false =>
          have hlater : (rest.filter fun o => !((named ++ [(key, a)]).map (·.1)).contains o.1) =
              rest.filter fun o => !(named.map (·.1)).contains o.1 := by
            refine List.filter_congr fun x hx => ?_
            have hne : x.1 ≠ key := fun heq => hkey (List.mem_map.mpr ⟨x, hx, heq⟩)
            simp [hne]
          have hadded := ih (named ++ [(key, a)]) hrest
          rw [hlater, Parameters.keyed_append, List.append_assoc] at hadded
          exact hadded

/-- Names under which nothing can be offered to any recipe. -/
def IsReserved (key : Text) : Prop := key = Recipe.ownName ∨ key ∈ ownNames

instance : DecidablePred IsReserved := fun _ => inferInstanceAs (Decidable (_ ∨ _))

theorem plan_nil : plan catalog block alternative [] = ownPlan catalog block alternative := by
  rw [plan, if_neg (by simp)]
  cases ownPlan catalog block alternative with
  | error fault => rfl
  | ok own => rfl

/-- Offers change the keywords of a plan and nothing else. -/
theorem plan_of_free (h : ownPlan catalog block alternative = .ok p)
    (hfree : ∀ o ∈ offers, ¬IsReserved o.1) :
    plan catalog block alternative offers =
      .ok { p with
        keywords := addOffers p.keywords (offers.filter fun o => p.recipe.asksFor o.1) } := by
  rw [plan, if_neg, h]
  · show (p.recipe.accepted offers >>= fun extra => _) = _
    rw [Recipe.accepted, if_neg]
    · rfl
    · rw [List.any_eq_true]
      rintro ⟨o, ho, hname⟩
      exact hfree o ho (Or.inl (by simpa using hname))
  · rw [List.any_eq_true]
    rintro ⟨o, ho, hname⟩
    exact hfree o ho (Or.inr (by simpa using hname))

theorem plan_of_reserved (h : ownPlan catalog block alternative = .ok p)
    (hreserved : ∃ o ∈ offers, IsReserved o.1) :
    plan catalog block alternative offers = .error (.blueprint .arguments) := by
  obtain ⟨o, ho, hname⟩ := hreserved
  rw [plan]
  split
  · rfl
  · rename_i hnames
    have hown : o.1 = Recipe.ownName := hname.resolve_right fun hown =>
      hnames (List.any_eq_true.mpr ⟨o, ho, by simpa using hown⟩)
    rw [h]
    show (p.recipe.accepted offers >>= fun extra => _) = _
    rw [Recipe.accepted, if_pos]
    · rfl
    · exact List.any_eq_true.mpr ⟨o, ho, by simpa using hown⟩

end Blueprint

/-! ## Offers that are passed on -/

/-- Keeping the entries of some keys changes nothing for such a key, and hides every other. -/
theorem lookup_filter_key {α : Type} (q : Text → Bool) (key : Text) (entries : List (Text × α)) :
    (entries.filter fun x => q x.1).lookup key = if q key then entries.lookup key else none := by
  induction entries with
  | nil => simp
  | cons x rest ih =>
      obtain ⟨k, a⟩ := x
      by_cases hk : key = k
      · subst hk
        cases hq : q key <;> simp [hq, ih]
      · have hne : (key == k) = false := by simpa using hk
        cases hq : q k <;> simp [hq, hne, List.lookup_cons, ih]

namespace Plan

variable {κ β : Type} {p : Plan κ β} {call : Call (Argument κ)} {offers : List (Text × Argument κ)}
  {key : Text}

/-- The parameters that the block fills by position. -/
def byPosition (p : Plan κ β) : List Text :=
  p.recipe.parameters.slots.take (p.positional.items?.getD []).length

/-- The keywords under which the block sets something. -/
def byKeyword (p : Plan κ β) : List Text :=
  p.keywords.filterMap fun
    | (.text key, _) => some key
    | _ => none

/-- Names under which an offer spoils a block that fits without it. -/
inductive Refuses (p : Plan κ β) (key : Text) : Prop
  /-- The name is used for something else on the way to the recipe. -/
  | reserved (h : Blueprint.IsReserved key)
  /-- The block fills the parameter by position. -/
  | filled (h : key ∈ p.byPosition) (hname : key ∈ p.recipe.parameters.nameable)
  /-- The parameter takes no argument under its name, and nothing else does. -/
  | unnameable (h : key ∈ p.recipe.parameters.names) (hname : key ∉ p.recipe.parameters.nameable)
      (hrest : p.recipe.parameters.takesRest = false)
  /-- The recipe is passed whatever is on offer but takes its parameters only. -/
  | undeclared (h : p.recipe.takesOffers = true) (hname : key ∉ p.recipe.parameters.names)
      (hrest : p.recipe.parameters.takesRest = false)

/-- What a call with offers next to the block has to do with the call of the block alone. -/
structure Joins (p : Plan κ β) (call : Call (Argument κ)) (offers : List (Text × Argument κ))
    (joined : Call (Argument κ)) : Prop where
  /-- Every parameter that the block sets keeps its argument. -/
  kept : ∀ key a, call.bound.lookup key = some a → joined.bound.lookup key = some a
  more : joined.more = call.more
  /-- A parameter that the block leaves has what is offered under its name. -/
  offered : ∀ key ∈ p.recipe.parameters.nameable, call.bound.lookup key = none →
    joined.bound.lookup key = offers.lookup key
  /-- A parameter that takes no argument under its name, and anything else, is left as it is. -/
  others : ∀ key, key ∉ p.recipe.parameters.nameable →
    joined.bound.lookup key = call.bound.lookup key
  /-- What is offered beyond the parameters is in the rest, unless the block sets the keyword. -/
  rest : joined.rest = call.rest ++ offers.filter fun o =>
    p.recipe.asksFor o.1 && !p.byKeyword.contains o.1 && !p.recipe.parameters.nameable.contains o.1
  /-- A recipe without a rest is passed nothing but its parameters. -/
  closed : p.recipe.parameters.takesRest = false → joined.rest = []

theorem exists_of_call_eq_ok (h : p.call = .ok call) :
    ∃ items named, p.positional.items? = some items ∧ p.keywords = Parameters.keyed named
      ∧ p.recipe.parameters.Fits (items.map Argument.setting) named
      ∧ call = p.recipe.parameters.place (items.map .setting) named := by
  rw [Plan.call] at h
  cases hitems : p.positional.items? with
  | none =>
      rw [hitems] at h
      cases h
  | some items =>
      rw [hitems] at h
      obtain ⟨named, hnamed, hfits, hcall⟩ := Parameters.assign_eq_ok_iff.mp h
      exact ⟨items, named, rfl, hnamed, hfits, hcall⟩

theorem byKeyword_of_keyed {named : List (Text × Argument κ)}
    (h : p.keywords = Parameters.keyed named) : p.byKeyword = named.map (·.1) := by
  rw [byKeyword, h, Parameters.keyed, List.filterMap_map, ← List.filterMap_eq_map]
  rfl

theorem mem_names_of_mem_nameable {q : Parameters} (h : key ∈ q.nameable) : key ∈ q.names := by
  obtain ⟨x, hx, rfl⟩ := List.mem_map.mp h
  exact List.mem_map_of_mem (List.mem_of_mem_filter hx)

/-- Apart from reserved names, those are refused that the recipe asks for but has no place for. -/
theorem refuses_iff {items : List Value} (hitems : p.positional.items? = some items)
    (hreserved : ¬Blueprint.IsReserved key) (hreceiver : key ≠ Parameters.receiver) :
    p.Refuses key ↔
      p.recipe.asksFor key = true ∧ p.recipe.parameters.admits items.length key = false := by
  have hposition : p.byPosition = p.recipe.parameters.slots.take items.length := by
    rw [byPosition, hitems, Option.getD_some]
  have hadmits : p.recipe.parameters.admits items.length key =
      if key ∈ p.recipe.parameters.nameable then !decide (key ∈ p.byPosition)
      else p.recipe.parameters.takesRest := by
    simp [Parameters.admits, hreceiver, hposition]
  have hasks : p.recipe.asksFor key = true ↔
      p.recipe.takesOffers = true ∨ key ∈ p.recipe.parameters.names := by
    simp [Recipe.asksFor, hreceiver]
  rw [hadmits, hasks]
  constructor
  · rintro (hname | ⟨hfilled, hname⟩ | ⟨hdeclared, hname, hrest⟩ | ⟨hoffers, hname, hrest⟩)
    · exact absurd hname hreserved
    · exact ⟨Or.inr (mem_names_of_mem_nameable hname), by simp [hname, hfilled]⟩
    · exact ⟨Or.inr hdeclared, by rw [if_neg hname, hrest]⟩
    · exact ⟨Or.inl hoffers, by rw [if_neg (mt mem_names_of_mem_nameable hname), hrest]⟩
  · rintro ⟨hasked, hplace⟩
    by_cases hname : key ∈ p.recipe.parameters.nameable
    · rw [if_pos hname] at hplace
      exact .filled (by simpa using hplace) hname
    · rw [if_neg hname] at hplace
      by_cases hdeclared : key ∈ p.recipe.parameters.names
      · exact .unnameable hdeclared hname hplace
      · exact .undeclared (hasked.resolve_right hdeclared) hdeclared hplace

/-- The offers that the recipe asks for and the block does not set under a keyword. -/
def passed (p : Plan κ β) (offers : List (Text × Argument κ)) : List (Text × Argument κ) :=
  offers.filter fun o => p.recipe.asksFor o.1 && !p.byKeyword.contains o.1

section Fitting

variable {items : List Value} {named : List (Text × Argument κ)}
  (hitems : p.positional.items? = some items) (hnamed : p.keywords = Parameters.keyed named)
  (hfits : p.recipe.parameters.Fits (items.map Argument.setting) named)

include hnamed in
theorem addOffers_eq_passed (hdistinct : (offers.map (·.1)).Nodup) :
    Blueprint.addOffers p.keywords (offers.filter fun o => p.recipe.asksFor o.1) =
      Parameters.keyed (named ++ p.passed offers) := by
  have hasked : ((offers.filter fun o => p.recipe.asksFor o.1).map (·.1)).Nodup :=
    (List.filter_sublist.map _).nodup hdistinct
  rw [hnamed, Blueprint.addOffers_keyed named hasked, List.filter_filter, passed,
    byKeyword_of_keyed hnamed]
  simp only [Bool.and_comm]

include hnamed in
/-- What the offers that are passed on do to the call of the block alone. -/
theorem joins_place
    (hpassed : p.recipe.parameters.Fits (items.map Argument.setting) (named ++ p.passed offers)) :
    p.Joins (p.recipe.parameters.place (items.map .setting) named) offers
      (p.recipe.parameters.place (items.map .setting) (named ++ p.passed offers)) := by
  have hbound : ∀ key,
      (p.recipe.parameters.place (items.map .setting) (named ++ p.passed offers)).bound.lookup key =
        ((p.recipe.parameters.place (items.map .setting) named).bound.lookup key).or
          (if p.recipe.parameters.nameable.contains key then (p.passed offers).lookup key
            else none) := by
    intro key
    rw [Parameters.bound_place_append, List.lookup_append,
      lookup_filter_key fun k => p.recipe.parameters.nameable.contains k]
  refine ⟨fun key a h => ?_, rfl, fun key hname hleft => ?_, fun key hname => ?_, ?_, fun hrest => ?_⟩
  · rw [hbound, h, Option.some_or]
  · have hasked : p.recipe.asksFor key = true := by
      simp [Recipe.asksFor, mem_names_of_mem_nameable hname]
    have hkeyword : key ∉ p.byKeyword := by
      rw [byKeyword_of_keyed hnamed]
      intro hkey
      obtain ⟨x, hx, rfl⟩ := List.mem_map.mp hkey
      have hfilled : x ∈ (p.recipe.parameters.place (items.map .setting) named).bound :=
        List.mem_append_right _ (List.mem_filter.mpr ⟨hx, by simpa using hname⟩)
      simpa using List.lookup_eq_none_iff.mp hleft x hfilled
    rw [hbound, hleft, Option.none_or, if_pos (by simpa using hname), passed,
      lookup_filter_key fun k => p.recipe.asksFor k && !p.byKeyword.contains k]
    simp [hasked, hkeyword]
  · rw [hbound, if_neg (by simpa using hname), Option.or_none]
  · rw [Parameters.rest_place_append, passed, List.filter_filter]
    congr 1
    exact List.filter_congr fun o _ => Bool.and_comm _ _
  · refine List.eq_nil_iff_forall_not_mem.mpr fun x hx => ?_
    rw [hpassed.takesRest_of_mem_rest hx] at hrest
    cases hrest

include hitems hnamed hfits

/-- The block alone gives nothing that is refused as an offer. -/
theorem not_mem_byKeyword_of_refuses (hreserved : ¬Blueprint.IsReserved key)
    (hreceiver : key ≠ Parameters.receiver) (h : p.Refuses key) : key ∉ p.byKeyword := by
  intro hkey
  rw [byKeyword_of_keyed hnamed] at hkey
  obtain ⟨x, hx, rfl⟩ := List.mem_map.mp hkey
  have hadmitted := hfits.admitted x hx
  rw [List.length_map, ((refuses_iff hitems hreserved hreceiver).mp h).2] at hadmitted
  cases hadmitted

theorem fits_passed_iff (hfree : ∀ o ∈ offers, ¬Blueprint.IsReserved o.1)
    (hreceiver : Parameters.receiver ∉ offers.map (·.1)) :
    p.recipe.parameters.Fits (items.map Argument.setting) (named ++ p.passed offers) ↔
      ∀ o ∈ offers, ¬p.Refuses o.1 := by
  have hname : ∀ o ∈ offers, o.1 ≠ Parameters.receiver := fun o ho heq =>
    hreceiver (heq ▸ List.mem_map_of_mem ho)
  rw [hfits.append_iff, List.length_map]
  constructor
  · intro h o ho hrefuses
    obtain ⟨hasked, hplace⟩ := (refuses_iff hitems (hfree o ho) (hname o ho)).mp hrefuses
    have hkeyword := not_mem_byKeyword_of_refuses hitems hnamed hfits (hfree o ho) (hname o ho)
      hrefuses
    have hadmitted := h o (List.mem_filter.mpr ⟨ho, by simp [hasked, hkeyword]⟩)
    rw [hplace] at hadmitted
    cases hadmitted
  · intro h o ho
    obtain ⟨ho, hpassed⟩ := List.mem_filter.mp ho
    rw [Bool.and_eq_true] at hpassed
    by_contra hplace
    exact h o ho ((refuses_iff hitems (hfree o ho) (hname o ho)).mpr
      ⟨hpassed.1, by simpa using hplace⟩)

end Fitting

end Plan

/-! ## Objects -/

namespace Blueprint

variable {κ β : Type} {catalog : Catalog κ β} {block : Value} {alternative : Option Text}
  {offers : List (Text × Argument κ)} {object : β}

/-- A block that describes an object by itself, next to offers under distinct names other than that of
the receiver. If one of them is refused, nothing is built. Otherwise the same recipe is run, with
whatever the block sets, and with what is offered wherever the block leaves a place for it. -/
theorem instantiate_next_to_offers (h : instantiate catalog block alternative [] = .ok object)
    (hdistinct : (offers.map (·.1)).Nodup) (hreceiver : Parameters.receiver ∉ offers.map (·.1)) :
    ∃ p call, plan catalog block alternative [] = .ok p ∧ p.call = .ok call
      ∧ p.recipe.build call = .ok object
      ∧ ((∃ o ∈ offers, p.Refuses o.1) →
          instantiate catalog block alternative offers = .error (.blueprint .arguments))
      ∧ ((∀ o ∈ offers, ¬p.Refuses o.1) → ∃ joined,
          instantiate catalog block alternative offers = p.recipe.build joined
            ∧ p.Joins call offers joined) := by
  obtain ⟨p, hplan, hrun⟩ := bind_eq_ok_iff.mp h
  obtain ⟨call, hcall, hbuild⟩ := bind_eq_ok_iff.mp hrun
  have hown : ownPlan catalog block alternative = .ok p := plan_nil ▸ hplan
  obtain ⟨items, named, hitems, hnamed, hfits, rfl⟩ := Plan.exists_of_call_eq_ok hcall
  refine ⟨p, _, hplan, hcall, hbuild, ?_⟩
  by_cases hreserved : ∃ o ∈ offers, IsReserved o.1
  · have hfault : instantiate catalog block alternative offers = .error (.blueprint .arguments) := by
      rw [instantiate, plan_of_reserved hown hreserved]
      rfl
    obtain ⟨o, ho, hname⟩ := hreserved
    exact ⟨fun _ => hfault, fun hnone => absurd (.reserved hname) (hnone o ho)⟩
  · have hfree : ∀ o ∈ offers, ¬IsReserved o.1 := fun o ho hname => hreserved ⟨o, ho, hname⟩
    have hstep : instantiate catalog block alternative offers =
        (p.recipe.parameters.assign (items.map .setting)
          (Parameters.keyed (named ++ p.passed offers)) >>= p.recipe.build) := by
      rw [instantiate, plan_of_free hown hfree, Plan.addOffers_eq_passed hnamed hdistinct]
      show (Plan.call _ >>= p.recipe.build) = _
      rw [Plan.call, hitems]
    have hiff := Plan.fits_passed_iff hitems hnamed hfits hfree hreceiver
    constructor
    · rintro ⟨o, ho, hrefuses⟩
      have hunfit : ¬p.recipe.parameters.Fits (items.map Argument.setting)
          (named ++ p.passed offers) := fun hpassed => hiff.mp hpassed o ho hrefuses
      rw [hstep, Parameters.assign_of_not_fits hunfit]
      rfl
    · intro hnone
      have hpassed := hiff.mpr hnone
      rw [hstep, Parameters.assign_of_fits hpassed]
      exact ⟨_, rfl, Plan.joins_place hnamed hpassed⟩

/-- Records how it is called: a size, a color, a label that is only taken under its name, and the
rest. -/
def widgetRecipe : Recipe Nat (Call (Argument Nat)) where
  typeName := "Widget"
  parameters := ⟨[("size" : Text), ("color" : Text), { name := "label", kind := .keyword }], true⟩
  build := .ok

def widgetCatalog : Catalog Nat (Call (Argument Nat)) := [("widget", widgetRecipe)]

/-- Sets the size by position and the color under a keyword. -/
def widgetBlock : Value :=
  .map [(.text "name", .text "widget"), (.text "args", .list [.int 5]),
    (.text "color", .text "blue")]

def widgetPlan : Plan Nat (Call (Argument Nat)) :=
  ⟨widgetRecipe, .list [.int 5], [(.text "color", .setting (.text "blue"))]⟩

def widgetCall : Call (Argument Nat) :=
  ⟨[("size", .setting (.int 5)), ("color", .setting (.text "blue"))], [], []⟩

/-- For a parameter that is set, one that is left, and none at all. -/
def widgetOffers : List (Text × Argument Nat) :=
  [("color", .offered 1), ("label", .offered 2), ("shape", .offered 3)]

/-- An offer for a parameter that is set under a keyword is held back, and one for a parameter that
is set by position spoils the block. -/
theorem instantiate_next_to_offers_widget :
    (∃ joined, instantiate widgetCatalog widgetBlock none widgetOffers = .ok joined
      ∧ widgetPlan.Joins widgetCall widgetOffers joined)
    ∧ instantiate widgetCatalog widgetBlock none [("size", .offered 1)] =
        .error (.blueprint .arguments) := by
  have halone : instantiate widgetCatalog widgetBlock none [] = .ok widgetCall := rfl
  have hplan : plan widgetCatalog widgetBlock none [] = .ok widgetPlan := rfl
  have hcall : widgetPlan.call = .ok widgetCall := rfl
  constructor
  · obtain ⟨p, call, hp, hcallp, -, -, hjoins⟩ := @instantiate_next_to_offers _ _ widgetCatalog
      widgetBlock none widgetOffers _ halone (by decide) (by decide)
    obtain rfl := Except.ok.inj (hplan.symm.trans hp)
    obtain rfl := Except.ok.inj (hcall.symm.trans hcallp)
    have hfree : ∀ o ∈ widgetOffers, ¬IsReserved o.1 ∧ o.1 ∉ widgetPlan.byPosition := by decide
    refine hjoins fun o ho hrefuses => ?_
    cases hrefuses with
    | reserved hname => exact (hfree o ho).1 hname
    | filled hname _ => exact (hfree o ho).2 hname
    | unnameable _ _ hrest => cases hrest
    | undeclared _ _ hrest => cases hrest
  · obtain ⟨p, call, hp, -, -, hrefused, -⟩ := @instantiate_next_to_offers _ _ widgetCatalog
      widgetBlock none [("size", .offered 1)] _ halone (by decide) (by decide)
    obtain rfl := Except.ok.inj (hplan.symm.trans hp)
    exact hrefused ⟨_, List.mem_singleton_self _, .filled (by decide) (by decide)⟩

end Blueprint

end ConfigLocator
