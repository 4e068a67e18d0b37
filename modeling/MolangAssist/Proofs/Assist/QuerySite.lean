import MolangAssist.Assist.Completion
import MolangAssist.Assist.Hover
import MolangAssist.Proofs.Schema.ChainCoherence
import MolangAssist.Proofs.Script.WrittenChain

/-!
# Query chains under the cursor

Completion right behind the last dot of a query chain and hover on the name that follows it are
two different programs. Both are computed here for every place of every text, and they agree:
what is offered is what is documented.
-/
namespace MolangAssist.Assist

open Schema Script Text

/-- A place of a text where a query chain stands. Nothing before or behind it belongs to it. -/
structure QuerySite where
  before : List Char
  word : List Char
  names : List (List Char)
  last : List Char
  after : List Char
  word_query : word = ['q'] ∨ word = ['q', 'u', 'e', 'r', 'y']
  names_valid : ∀ name ∈ names, isName name = true
  last_valid : isName last = true
  before_apart : ∀ c ∈ before.getLast?, isChainChar c = false
  after_apart : ∀ c ∈ after.head?, isWordChar c = false

namespace QuerySite

def text (site : QuerySite) : List Char :=
  site.before ++ dotted (site.word :: site.names ++ [site.last]) ++ site.after

/-- The text up to the last dot of the chain, the dot included. -/
def opening (site : QuerySite) : List Char :=
  site.before ++ dotted (site.word :: site.names) ++ ['.']

def line (site : QuerySite) : Nat := site.before.count '\n'

/-- The column right behind the last dot. -/
def column (site : QuerySite) : Nat :=
  (lastPiece '\n' site.before).length + (dotted (site.word :: site.names)).length + 1

/-- The name behind the last dot. -/
def label (site : QuerySite) : String := String.ofList site.last

/-- The whole chain as documentation shows it. -/
def title (site : QuerySite) : String :=
  "q." ++ ".".intercalate (site.names.map String.ofList ++ [site.label])

theorem text_eq (site : QuerySite) : site.text = site.opening ++ (site.last ++ site.after) := by
  rw [text, opening, dotted_snoc (List.cons_ne_nil _ _)]
  simp

theorem ofWord?_word (site : QuerySite) : Space.ofWord? site.word = some .query := by
  rcases site.word_query with hword | hword <;> rw [hword] <;> rfl

theorem not_feed_mem_chain (site : QuerySite) :
    '\n' ∉ dotted (site.word :: site.names) ++ ['.'] := by
  intro hfeed
  have hchain : isChainChar '\n' = true := by
    rcases List.mem_append.mp hfeed with hfeed | hfeed
    · exact isChainChar_dotted (isWordChar_of_pieces site.ofWord?_word site.names_valid) _ hfeed
    · simp at hfeed
  revert hchain
  decide

theorem count_opening (site : QuerySite) : site.opening.count '\n' = site.line := by
  have hchain := List.count_eq_zero.mpr site.not_feed_mem_chain
  rw [opening, List.append_assoc, List.count_append, hchain, Nat.add_zero, line]

theorem lastPiece_opening (site : QuerySite) :
    lastPiece '\n' site.opening =
      lastPiece '\n' site.before ++ dotted (site.word :: site.names) ++ ['.'] := by
  rw [opening, List.append_assoc, lastPiece_append _ site.not_feed_mem_chain, List.append_assoc]

theorem length_lastPiece_opening (site : QuerySite) :
    (lastPiece '\n' site.opening).length = site.column := by
  rw [lastPiece_opening, column]
  simp only [List.length_append, List.length_singleton]

/-- What stands before the cursor on its line. -/
theorem upTo_column (site : QuerySite) :
    upTo site.column (lineAt site.text site.line) =
      lastPiece '\n' site.before ++ dotted (site.word :: site.names) ++ ['.'] := by
  rw [site.text_eq, ← site.count_opening, lineAt_append, ← site.length_lastPiece_opening, upTo,
    if_pos (Int.natCast_nonneg _), Int.toNat_natCast, List.take_left, lastPiece_opening]

theorem lead_apart (site : QuerySite) :
    ∀ c ∈ (lastPiece '\n' site.before).getLast?, isChainChar c = false := by
  intro c hc
  rw [lastPiece, List.getLast?_reverse, List.head?_takeWhile, List.head?_reverse] at hc
  exact site.before_apart c (Option.filter_eq_some_iff.mp hc).1

theorem chainBefore?_column (site : QuerySite) :
    chainBefore? (upTo site.column (lineAt site.text site.line)) =
      some ⟨.query, site.names⟩ := by
  rw [site.upTo_column]
  exact chainBefore?_dotted site.lead_apart site.ofWord?_word site.names_valid

theorem offsetAt_member (site : QuerySite) {k : Nat} (hk : k ≤ site.last.length) :
    offsetAt site.text site.line (site.column + k : Nat) = .ok (site.opening.length + k) := by
  have hline : k ≤ ((site.last ++ site.after).takeWhile (· != '\n')).length := by
    have hlast : ∀ c ∈ site.last, (c != '\n') = true := by
      intro c hc
      have hword := isWordChar_of_isName site.last_valid c hc
      simp only [bne_iff_ne]
      rintro rfl
      revert hword
      decide
    rw [List.takeWhile_append_of_pos hlast, List.length_append]
    omega
  have hoffset := offsetAt_append site.opening (site.last ++ site.after) hline
  rwa [site.count_opening, site.length_lastPiece_opening, ← site.text_eq] at hoffset

theorem chainAround?_member (site : QuerySite) {k : Nat} (hk : k ≤ site.last.length) :
    chainAround? site.text (site.opening.length + k : Nat) =
      some (dotted (site.word :: site.names ++ [site.last])) := by
  have hwords := isWordChar_of_pieces site.ofWord?_word site.names_valid
  have hlast := isWordChar_of_isName site.last_valid
  -- The cursor cuts the last name in two; the part before it belongs to the run.
  have hrun : ∀ c ∈ dotted (site.word :: site.names ++ [site.last.take k]),
      isChainChar c = true := by
    apply isChainChar_dotted
    intro piece hpiece c hc
    rcases List.mem_append.mp hpiece with hpiece | hpiece
    · exact hwords piece hpiece c hc
    · rw [List.mem_singleton.mp hpiece] at hc
      exact hlast c (List.mem_of_mem_take hc)
  have htail : ∀ c ∈ site.last.drop k, isWordChar c = true :=
    fun c hc => hlast c (List.mem_of_mem_drop hc)
  have hwhole : dotted (site.word :: site.names ++ [site.last.take k]) ++ site.last.drop k =
      dotted (site.word :: site.names ++ [site.last]) := by
    rw [dotted_snoc (List.cons_ne_nil _ _), dotted_snoc (List.cons_ne_nil _ _),
      List.append_assoc, List.cons_append, List.take_append_drop]
  have hplace : site.opening.length + k = site.before.length +
      (dotted (site.word :: site.names ++ [site.last.take k])).length := by
    rw [dotted_snoc (List.cons_ne_nil _ _), opening]
    simp only [List.length_append, List.length_cons, List.length_nil, List.length_take]
    omega
  have htext : site.text = site.before ++
      dotted (site.word :: site.names ++ [site.last.take k]) ++
        (site.last.drop k ++ site.after) := by
    rw [text, ← hwhole]
    simp only [List.append_assoc]
  have hdot : (dotted (site.word :: site.names ++ [site.last])).contains '.' = true := by
    rw [dotted_snoc (List.cons_ne_nil _ _)]
    simp
  rw [hplace, htext, chainAround?_run site.before_apart hrun htail site.after_apart, hwhole,
    if_pos hdot]

theorem splitChain?_chain (site : QuerySite) :
    splitChain? (dotted (site.word :: site.names ++ [site.last])) =
      some ⟨.query, site.names ++ [site.last]⟩ := by
  apply splitChain?_dotted site.ofWord?_word
  · intro name hname
    rcases List.mem_append.mp hname with hname | hname
    · exact site.names_valid name hname
    · rw [List.mem_singleton.mp hname]
      exact site.last_valid
  · simp

/-- Completion behind the last dot offers what follows the chain up to it. -/
theorem complete_column (site : QuerySite) (doc : Document) (runtime : Option String)
    (hmode : typesAnnotation (upTo site.column (lineAt site.text site.line)) = false) :
    complete (some doc) site.text site.line site.column runtime =
      queryItems doc (site.names.map String.ofList) runtime := by
  simp only [complete, hmode, site.chainBefore?_column]
  rfl

/-- Hover on the name behind the last dot documents the whole chain. -/
theorem hover?_member (site : QuerySite) (doc : Document) (runtime : Option String) {k : Nat}
    (hk : k ≤ site.last.length) :
    hover? (some doc) site.text site.line (site.column + k : Nat) runtime =
      .ok ((doc.member? runtime (site.names.map String.ofList ++ [site.label])).map
        (fullDoc site.title)) := by
  simp only [hover?, site.offsetAt_member hk, site.chainAround?_member hk, site.splitChain?_chain,
    chainDoc?, List.map_append, List.map_singleton]
  rfl

end QuerySite

/-! ## Offers and documentation -/

theorem mem_memberItems {members : Members} {rank : String} {item : Item} :
    item ∈ memberItems members rank ↔
      ∃ name entry, (name, entry) ∈ members ∧ item = memberItem name entry rank := by
  rw [memberItems, List.mem_map]
  constructor
  · rintro ⟨⟨name, entry⟩, hmem, rfl⟩
    exact ⟨name, entry, hmem, rfl⟩
  · rintro ⟨name, entry, hmem, rfl⟩
    exact ⟨(name, entry), hmem, rfl⟩

/-- Behind a chain that lists members, a name is offered if and only if it is listed, and the
offer shows the listed entry. -/
theorem mem_queryItems_iff {doc : Document} {runtime : Option String} {names : List String}
    (hnames : names ≠ []) {item : Item} :
    item ∈ queryItems doc names runtime ↔
      ∃ entry, (doc.resolve? runtime names).bind
          (fun here => Table.get? here.members item.label) = some entry ∧
        item = memberItem item.label entry "0" := by
  obtain ⟨root, rest, rfl⟩ := List.exists_cons_of_ne_nil hnames
  rw [queryItems]
  cases hresolved : doc.resolve? runtime (root :: rest) with
  | none => simp
  | some here =>
    have hdistinct := Document.distinct_resolve? hresolved
    simp only [mem_memberItems, Option.bind_some]
    constructor
    · rintro ⟨name, entry, hmem, rfl⟩
      exact ⟨entry, hdistinct.get?_of_mem hmem, rfl⟩
    · rintro ⟨entry, hget, hitem⟩
      exact ⟨item.label, entry, Table.mem_of_get? hget, hitem⟩
  · simp

theorem exists_mem_queryItems_nil {doc : Document} {runtime : Option String} {name : String}
    {entry : Member} (hvariable : Table.get? (doc.queryVariables runtime) name = some entry) :
    ∃ item ∈ queryItems doc [] runtime,
      (∃ rank, item = memberItem name entry rank) ∧
        item.documentation = some (briefDoc name entry) := by
  refine ⟨memberItem name entry (if entry.isStruct then "0" else "1"), ?_, ⟨_, rfl⟩, rfl⟩
  rw [queryItems]
  apply List.mem_append_left
  exact List.mem_map_of_mem (Table.mem_of_get? hvariable)

/-- What completion offers is what hover documents. -/
theorem QuerySite.hover?_iff_offered (site : QuerySite) (doc : Document)
    (runtime : Option String) (column : Nat) (hfrom : site.column ≤ column)
    (hto : column ≤ site.column + site.last.length)
    (hmode : typesAnnotation (upTo site.column (lineAt site.text site.line)) = false) :
    ∃ shown, hover? (some doc) site.text site.line column runtime = .ok shown ∧
      (site.names ≠ [] →
        (shown.isSome = true ↔
          ∃ item ∈ complete (some doc) site.text site.line site.column runtime,
            item.label = site.label) ∧
        ∀ item ∈ complete (some doc) site.text site.line site.column runtime,
          item.label = site.label →
            ∃ entry, shown = some (fullDoc site.title entry) ∧
              item = memberItem site.label entry "0" ∧
              item.documentation = some (briefDoc site.label entry)) ∧
      (site.names = [] →
        (shown.isSome = true ↔
          site.label ∈ Table.names (doc.queryVariables runtime) ∧ site.label ≠ "math") ∧
        (shown.isSome = true →
          ∃ entry, Table.get? (doc.queryVariables runtime) site.label = some entry ∧
            shown = some (fullDoc ("q." ++ site.label) entry) ∧
            ∃ item ∈ complete (some doc) site.text site.line site.column runtime,
              (∃ rank, item = memberItem site.label entry rank) ∧
                item.documentation = some (briefDoc site.label entry))) := by
  obtain ⟨k, rfl⟩ := Nat.exists_eq_add_of_le hfrom
  rw [site.complete_column doc runtime hmode]
  refine ⟨_, site.hover?_member doc runtime (by omega), ?_, ?_⟩
  · intro hnames
    have hpath : site.names.map String.ofList ≠ [] := by simpa using hnames
    rw [Document.member?_snoc doc runtime hpath]
    refine ⟨?_, ?_⟩
    · rw [Option.isSome_map, Option.isSome_iff_exists]
      constructor
      · rintro ⟨entry, hentry⟩
        exact ⟨memberItem site.label entry "0",
          (mem_queryItems_iff hpath).mpr ⟨entry, hentry, rfl⟩, rfl⟩
      · rintro ⟨item, hitem, hlabel⟩
        obtain ⟨entry, hentry, _⟩ := (mem_queryItems_iff hpath).mp hitem
        rw [hlabel] at hentry
        exact ⟨entry, hentry⟩
    · intro item hitem hlabel
      obtain ⟨entry, hentry, hshape⟩ := (mem_queryItems_iff hpath).mp hitem
      rw [hlabel] at hentry hshape
      refine ⟨entry, by rw [hentry]; rfl, hshape, ?_⟩
      rw [hshape]
      rfl
  · intro hnames
    have htitle : site.title = "q." ++ site.label := by rw [title, hnames]; rfl
    rw [htitle, hnames, List.map_nil, List.nil_append, Document.member?_singleton]
    by_cases hmath : site.label = "math"
    · simp [hmath]
    · rw [if_neg hmath, Option.isSome_map, Table.get?_isSome_iff]
      refine ⟨by simp [hmath], ?_⟩
      intro hvariable
      obtain ⟨entry, hentry⟩ := Option.isSome_iff_exists.mp (Table.get?_isSome_iff.mpr hvariable)
      refine ⟨entry, hentry, by rw [hentry]; rfl, exists_mem_queryItems_nil hentry⟩

/-- The second line of a script, with a chain behind an assignment. -/
def secondLine : QuerySite where
  before := "t.a = 1;\nt.b = ".toList
  word := "query".toList
  names := ["pokemon".toList]
  last := "nick".toList
  after := ";".toList
  word_query := by decide
  names_valid := by decide
  last_valid := by decide
  before_apart := by
    rintro c ⟨⟩
    decide
  after_apart := by
    rintro c ⟨⟩
    decide

/-- The cursor stands inside the last name and on a line that is not the first. -/
theorem hover?_iff_offered_secondLine :
    (∃ text, hover? (some Document.carryingRoot) secondLine.text 1 22 none = .ok (some text)) ∧
      ∃ item ∈ complete (some Document.carryingRoot) secondLine.text 1 20 none,
        item.label = "nick" := by
  have hoffered : ∃ item ∈ complete (some Document.carryingRoot) secondLine.text 1 20 none,
      item.label = "nick" := by decide +kernel
  obtain ⟨shown, hhover, hchain, _⟩ := QuerySite.hover?_iff_offered secondLine
    Document.carryingRoot none 22 (by decide +kernel) (by decide +kernel) (by decide +kernel)
  obtain ⟨text, htext⟩ := Option.isSome_iff_exists.mp
    ((hchain (by decide)).1.mpr hoffered)
  exact ⟨⟨text, by rw [← htext]; exact hhover⟩, hoffered⟩

end MolangAssist.Assist
