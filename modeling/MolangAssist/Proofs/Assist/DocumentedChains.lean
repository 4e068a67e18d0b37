import MolangAssist.Proofs.Assist.ChainLine
import MolangAssist.Proofs.Assist.QuerySite
import MolangAssist.Schema.Bundled

/-!
# Documented chains and offered names

Hover documents a chain of the query space or of the mathematical functions. Typed anew up to its
last dot, a query chain offers the name that was documented. A mathematical function has nothing
behind it, so a longer chain offers nothing there, although hover documents its first name.
-/
namespace MolangAssist.Assist

open Schema Script Text

/-- The chain as documentation shows it. -/
def chainTitle (chain : Chain) : String :=
  String.ofList (dotted (chain.space.short :: chain.names))

/-- The chain that hover reads at a position. -/
def hoveredChain? (text : List Char) (line column : Int) : Option Chain :=
  (offsetAt text line column).toOption.bind fun offset =>
    (chainAround? text offset).bind splitChain?

theorem hover?_of_chain {text : List Char} {line column : Int} {chain : Chain}
    (hread : hoveredChain? text line column = some chain) (doc : Document)
    (runtime : Option String) :
    hover? (some doc) text line column runtime = .ok (chainDoc? doc chain runtime) := by
  obtain ⟨offset, hoffset, hchain⟩ := Option.bind_eq_some_iff.mp hread
  obtain ⟨around, haround, hsplit⟩ := Option.bind_eq_some_iff.mp hchain
  cases hplace : offsetAt text line column with
  | error cause =>
    rw [hplace] at hoffset
    cases hoffset
  | ok place =>
    rw [hplace] at hoffset
    cases hoffset
    simp only [hover?, hplace, haround, hsplit]

theorem isName_of_splitChain? {s : List Char} {chain : Chain}
    (hsplit : splitChain? s = some chain) : ∀ name ∈ chain.names, isName name = true := by
  rw [splitChain?] at hsplit
  split at hsplit
  · split at hsplit
    · next hnames =>
      obtain ⟨space, _, rfl⟩ := Option.map_eq_some_iff.mp hsplit
      exact List.all_eq_true.mp hnames
    · cases hsplit
  · cases hsplit

theorem isName_of_hoveredChain? {text : List Char} {line column : Int} {chain : Chain}
    (hread : hoveredChain? text line column = some chain) :
    ∀ name ∈ chain.names, isName name = true := by
  obtain ⟨_, _, hchain⟩ := Option.bind_eq_some_iff.mp hread
  obtain ⟨_, _, hsplit⟩ := Option.bind_eq_some_iff.mp hchain
  exact isName_of_splitChain? hsplit

theorem chainTitle_cons (space : Space) (name : List Char) (rest : List (List Char)) :
    chainTitle ⟨space, name :: rest⟩ = String.ofList space.short ++ "." ++
      ".".intercalate ((name :: rest).map String.ofList) := by
  have hdot : (".").toList = ['.'] := rfl
  rw [← String.toList_inj]
  simp [chainTitle, dotted, List.intercalate_cons_cons, Function.comp_def, hdot]

/-! ## What hover documents -/

section Documented

variable {doc : Document} {runtime : Option String} {shown : String}

/-- Only two spaces have documentation. -/
theorem space_of_chainDoc? {chain : Chain} (hshown : chainDoc? doc chain runtime = some shown) :
    chain.space = .query ∨ chain.space = .math := by
  rw [chainDoc?] at hshown
  split at hshown
  · next hspace => exact .inr hspace
  · next hspace => exact .inl hspace
  · cases hshown

theorem chainDoc?_query {names : List (List Char)} {last : List Char}
    (hshown : chainDoc? doc ⟨.query, names ++ [last]⟩ runtime = some shown) :
    ∃ entry, doc.member? runtime (names.map String.ofList ++ [String.ofList last]) = some entry ∧
      shown = fullDoc (chainTitle ⟨.query, names ++ [last]⟩) entry := by
  simp only [chainDoc?, List.map_append, List.map_singleton] at hshown
  obtain ⟨entry, hentry, rfl⟩ := Option.map_eq_some_iff.mp hshown
  obtain ⟨first, rest, hcons⟩ := List.exists_cons_of_ne_nil (List.append_ne_nil_of_right_ne_nil
    names (List.cons_ne_nil last []))
  refine ⟨entry, hentry, ?_⟩
  rw [hcons, chainTitle_cons, ← hcons, List.map_append, List.map_singleton]
  rfl

theorem chainDoc?_math {first : List Char} {rest : List (List Char)}
    (hshown : chainDoc? doc ⟨.math, first :: rest⟩ runtime = some shown) :
    ∃ entry, Table.get? doc.mathFunctions (String.ofList first) = some entry ∧
      shown = fullDoc (chainTitle ⟨.math, [first]⟩) entry := by
  simp only [chainDoc?, List.map_cons] at hshown
  obtain ⟨entry, hentry, rfl⟩ := Option.map_eq_some_iff.mp hshown
  refine ⟨entry, hentry, ?_⟩
  rw [chainTitle_cons]
  rfl

end Documented

/-! ## What completion offers -/

theorem exists_mem_queryItems {doc : Document} {runtime : Option String} {path : List String}
    {name : String} {entry : Member} (hentry : doc.member? runtime (path ++ [name]) = some entry) :
    ∃ rank, memberItem name entry rank ∈ queryItems doc path runtime := by
  by_cases hpath : path = []
  · subst hpath
    rw [List.nil_append, Document.member?_singleton] at hentry
    split at hentry
    · cases hentry
    · obtain ⟨_, hitem, ⟨rank, rfl⟩, _⟩ := exists_mem_queryItems_nil hentry
      exact ⟨rank, hitem⟩
  · rw [Document.member?_snoc doc runtime hpath] at hentry
    exact ⟨"0", (mem_queryItems_iff hpath).mpr ⟨entry, hentry, rfl⟩⟩

/-- Behind a documented chain without its last name, that name is offered with the documented
entry, unless more than one name stands behind the mathematical functions. -/
theorem exists_mem_chainItems {doc : Document} {runtime : Option String} {shown : String}
    {space : Space} {names : List (List Char)} {last : List Char}
    (hshown : chainDoc? doc ⟨space, names ++ [last]⟩ runtime = some shown)
    (hmath : space = .math → names = []) (text : List Char) :
    ∃ entry rank, shown = fullDoc (chainTitle ⟨space, names ++ [last]⟩) entry ∧
      memberItem (String.ofList last) entry rank ∈ chainItems doc text ⟨space, names⟩ runtime := by
  have hspace : space = .query ∨ space = .math := space_of_chainDoc? hshown
  rcases hspace with rfl | rfl
  · obtain ⟨entry, hentry, rfl⟩ := chainDoc?_query hshown
    obtain ⟨rank, hitem⟩ := exists_mem_queryItems hentry
    exact ⟨entry, rank, rfl, hitem⟩
  · have hnone : names = [] := hmath rfl
    subst hnone
    obtain ⟨entry, hentry, rfl⟩ := chainDoc?_math hshown
    exact ⟨entry, "0", rfl, mem_memberItems.mpr ⟨_, entry, Table.mem_of_get? hentry, rfl⟩⟩

/-- Whatever hover documents is offered by completion at the same place of the chain on a line of
its own, and the offer shows the same entry. The one exception is a mathematical function with more
names behind it: only its first name is documented, and nothing is offered. -/
theorem documented_offered_iff (doc : Document) (runtime : Option String) {text : List Char}
    {line column : Int} {chain : Chain} {shown : String}
    (hread : hoveredChain? text line column = some chain)
    (hshown : hover? (some doc) text line column runtime = .ok (some shown))
    {word last : List Char} {names : List (List Char)}
    (hword : Space.ofWord? word = some chain.space) (hnames : chain.names = names ++ [last]) :
    let typed := typedChain word names
    let offered := complete (some doc) typed 0 (typed.length : Nat) runtime
    ((∃ item ∈ offered, item.label = String.ofList last) ↔ (chain.space = .math → names = [])) ∧
    ((chain.space = .math → names = []) → ∃ entry rank,
      shown = fullDoc (chainTitle chain) entry ∧
      memberItem (String.ofList last) entry rank ∈ offered) ∧
    ∀ first rest, chain.space = .math → names = first :: rest → offered = [] ∧
      ∃ entry, Table.get? doc.mathFunctions (String.ofList first) = some entry ∧
        shown = fullDoc (chainTitle ⟨.math, [first]⟩) entry := by
  intro typed offered
  obtain ⟨space, all⟩ := chain
  subst hnames
  have hvalid : ∀ name ∈ names, isName name = true := fun name hname =>
    isName_of_hoveredChain? hread name (List.mem_append_left _ hname)
  have hdocumented : chainDoc? doc ⟨space, names ++ [last]⟩ runtime = some shown := by
    rw [hover?_of_chain hread] at hshown
    exact Except.ok.inj hshown
  have habove : ∀ c ∈ ([] : List Char).getLast?, c = '\n' := by simp
  have hoffered : offered = chainItems doc typed ⟨space, names⟩ runtime := by
    have hline : complete (some doc) ([] ++ typed ++ []) _ _ runtime = _ :=
      complete_typedChain hword hvalid doc runtime habove
    simpa using hline
  have hgood : (space = .math → names = []) → ∃ entry rank,
      shown = fullDoc (chainTitle ⟨space, names ++ [last]⟩) entry ∧
      memberItem (String.ofList last) entry rank ∈ offered := by
    intro hmath
    rw [hoffered]
    exact exists_mem_chainItems hdocumented hmath typed
  have hnothing : ∀ first rest, space = .math → names = first :: rest → offered = [] := by
    rintro first rest rfl rfl
    exact hoffered
  refine ⟨⟨?_, ?_⟩, hgood, ?_⟩
  · rintro ⟨item, hitem, _⟩ hspace
    cases hcase : names with
    | nil => rfl
    | cons first rest =>
      rw [hnothing first rest hspace hcase] at hitem
      cases hitem
  · intro hmath
    obtain ⟨entry, rank, _, hitem⟩ := hgood hmath
    exact ⟨_, hitem, rfl⟩
  · rintro first rest rfl rfl
    exact ⟨hnothing first rest rfl rfl, chainDoc?_math hdocumented⟩

/-- A chain is hovered on the second line in its long form and typed anew in its short form. -/
theorem documented_offered_iff_species :
    let text := "t.x = 1;\nquery.pokemon.species".toList
    (∃ shown, hover? (some bundled) text 1 16 none = .ok (some shown)) ∧
      ∃ item ∈ complete (some bundled) "q.pokemon.".toList 0 10 none, item.label = "species" := by
  intro text
  have hread : hoveredChain? text 1 16 =
      some ⟨.query, ["pokemon".toList] ++ ["species".toList]⟩ := by decide +kernel
  have hshown : ∃ shown, hover? (some bundled) text 1 16 none = .ok (some shown) := by
    have hsome : (chainDoc? bundled ⟨.query, ["pokemon".toList, "species".toList]⟩ none).isSome =
        true := by decide +kernel
    obtain ⟨shown, hshown⟩ := Option.isSome_iff_exists.mp hsome
    exact ⟨shown, by rw [hover?_of_chain hread, List.singleton_append, hshown]⟩
  obtain ⟨shown, hhover⟩ := hshown
  have hword : Space.ofWord? "q".toList = some .query := by decide
  obtain ⟨hoffered, _⟩ := documented_offered_iff bundled none hread hhover hword rfl
  exact ⟨⟨shown, hhover⟩, hoffered.mpr (by simp)⟩

theorem documented_not_offered_behind_math :
    (hover? (some bundled) "math.abs.foo".toList 0 10 none).toOption.join.isSome = true ∧
      complete (some bundled) "math.abs.".toList 0 9 none = [] := by
  decide +kernel

end MolangAssist.Assist
