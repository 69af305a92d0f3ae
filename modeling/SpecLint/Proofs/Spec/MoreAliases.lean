import Mathlib.Data.List.Basic
import SpecLint.Proofs.Spec.OutermostHeaders
import SpecLint.Proofs.Spec.Recall

/-!
# More aliases

With more aliases more headers belong to a routine. Where such a header stands around others of the
routine, these are part of it: they count as its contexts if they are among them, and else not at
all. So the total takes in the scenarios of the new headers and gives up those of the headers that
stand inside them.

## Main result

`contextTotal_of_more_aliases`: a routine that has scenarios has them with more aliases as well, and
the two totals differ by these two sums. The total is not lower where no new header stands around
headers with more scenarios than it has itself.
-/
namespace SpecLint.Spec

open SpecLint.Code
open SpecLint.Code.Concrete (construct token)

/-- The outermost headers that only the wider titles find. -/
def newHeaders (titles wider : List String) (tree : Node) : List Node :=
  (findHeaders tree wider).filter fun header => !isHeaderTitled titles header

variable {titles wider : List String}

/-! ### One tree -/

theorem isHeaderTitled_of_subset (subset : ∀ title ∈ titles, title ∈ wider) {node : Node}
    (titled : isHeaderTitled titles node = true) : isHeaderTitled wider node = true := by
  simp only [isHeaderTitled, Bool.and_eq_true, Option.any_eq_true, List.contains_iff_mem]
    at titled ⊢
  obtain ⟨block, title, isTitle, member⟩ := titled
  exact ⟨block, title, isTitle, subset title member⟩

/-- The outermost nodes that pass a test are found in the outermost ones that pass a weaker test. -/
theorem outermost_eq_flatMap {test weaker : Node → Bool}
    (implies : ∀ node, test node = true → weaker node = true) (tree : Node) :
    outermost test tree = (outermost weaker tree).flatMap (outermost test) := by
  induction tree using Node.induction with
  | step node ih =>
    rw [outermost_eq weaker]
    split
    next => simp
    next fails =>
      have fails' : ¬test node = true := fun passes => fails (implies node passes)
      rw [outermost_eq test, if_neg fails', List.flatMap_assoc]
      exact List.flatMap_congr ih

theorem findHeaders_eq_flatMap (subset : ∀ title ∈ titles, title ∈ wider) (tree : Node) :
    findHeaders tree titles = (findHeaders tree wider).flatMap (findHeaders · titles) := by
  simp only [findHeaders_eq_outermost]
  exact outermost_eq_flatMap (fun _ => isHeaderTitled_of_subset subset) tree

theorem findHeaders_of_titled {header : Node} (titled : isHeaderTitled titles header = true) :
    findHeaders header titles = [header] := by
  rw [findHeaders_eq_outermost, outermost_eq, if_pos titled]

/-- A header that has a narrower title counts with both, and a new one in place of what stands
inside it. -/
theorem scenarioSum_flatMap (headers : List Node) :
    let added := headers.filter fun header => !isHeaderTitled titles header
    scenarioSum headers + scenarioSum (added.flatMap (findHeaders · titles)) =
      scenarioSum (headers.flatMap (findHeaders · titles)) + scenarioSum added := by
  induction headers with
  | nil => rfl
  | cons header headers ih =>
    cases titled : isHeaderTitled titles header with
    | true =>
      simp only [List.filter_cons, titled, List.flatMap_cons, findHeaders_of_titled titled,
        scenarioSum_cons, scenarioSum_append, scenarioSum_nil, Bool.not_true, Bool.false_eq_true,
        if_false] at ih ⊢
      omega
    | false =>
      simp only [List.filter_cons, titled, List.flatMap_cons, scenarioSum_cons, scenarioSum_append,
        Bool.not_false, if_true] at ih ⊢
      omega

theorem scenarioSum_findHeaders (subset : ∀ title ∈ titles, title ∈ wider) (tree : Node) :
    scenarioSum (findHeaders tree wider) +
        scenarioSum ((newHeaders titles wider tree).flatMap (findHeaders · titles)) =
      scenarioSum (findHeaders tree titles) + scenarioSum (newHeaders titles wider tree) := by
  rw [findHeaders_eq_flatMap subset tree]
  exact scenarioSum_flatMap (findHeaders tree wider)

/-! ### All spec files -/

theorem sum_filterMap_id (counts : List (Option Nat)) :
    (counts.filterMap id).sum = (counts.map (·.getD 0)).sum := by
  induction counts with
  | nil => rfl
  | cons count counts ih => cases count <;> simpa using ih

theorem eq_sum_of_sumCounts {counts : List (Option Nat)} {total : Nat}
    (summed : sumCounts counts = some total) : total = (counts.map (·.getD 0)).sum := by
  simp only [sumCounts] at summed
  split at summed
  · cases summed
  · exact (Option.some.inj summed).symm.trans (sum_filterMap_id counts)

theorem eq_scenarioSum_of_sumCounts {trees : List Node} {total : Nat}
    (summed : sumCounts (trees.map (countContexts · titles)) = some total) :
    total = scenarioSum (trees.flatMap (findHeaders · titles)) := by
  rw [eq_sum_of_sumCounts summed]
  clear summed
  induction trees with
  | nil => rfl
  | cons tree trees ih =>
    rw [List.map_cons, List.map_cons, List.sum_cons, ih, countContexts, getD_scenarios,
      List.flatMap_cons, scenarioSum_append]

theorem scenarioSum_trees (subset : ∀ title ∈ titles, title ∈ wider) (trees : List Node) :
    let added := trees.flatMap (newHeaders titles wider)
    scenarioSum (trees.flatMap (findHeaders · wider)) +
        scenarioSum (added.flatMap (findHeaders · titles)) =
      scenarioSum (trees.flatMap (findHeaders · titles)) + scenarioSum added := by
  induction trees with
  | nil => rfl
  | cons tree trees ih =>
    have here := scenarioSum_findHeaders subset tree
    simp only [List.flatMap_cons, List.flatMap_append, scenarioSum_append] at ih ⊢
    omega

/-- What is given up is given up header by header. -/
theorem scenarioSum_flatMap_le {headers : List Node} {inside : Node → List Node}
    (fits : ∀ header ∈ headers, scenarioSum (inside header) ≤ scenarioCount header) :
    scenarioSum (headers.flatMap inside) ≤ scenarioSum headers := by
  induction headers with
  | nil => exact Nat.le_refl _
  | cons header headers ih =>
    have own := fits header List.mem_cons_self
    have others := ih fun other member => fits other (List.mem_cons_of_mem _ member)
    rw [List.flatMap_cons, scenarioSum_append, scenarioSum_cons]
    exact Nat.add_le_add own others

theorem headerTitles_subset {key : HeaderKey} {first second : AliasTable}
    (more : ∀ other ∈ first.aliases key.toString, other ∈ second.aliases key.toString) :
    ∀ title ∈ headerTitles key first, title ∈ headerTitles key second := by
  intro title member
  obtain ⟨own, isOwn, named⟩ := List.mem_map.mp member
  refine List.mem_map.mpr ⟨own, ?_, named⟩
  rcases List.mem_cons.mp isOwn with rfl | other
  · exact List.mem_cons_self
  · exact List.mem_cons_of_mem _ (more own other)

/-- Where the narrower titles are found somewhere, so are the wider ones. -/
theorem sumCounts_ne_none_of_subset (subset : ∀ title ∈ titles, title ∈ wider) {trees : List Node}
    (counted : sumCounts (trees.map (countContexts · titles)) ≠ none) :
    sumCounts (trees.map (countContexts · wider)) ≠ none := by
  simp only [ne_eq, sumCounts_eq_none_iff, List.forall_mem_map, countContexts,
    scenarios_eq_none_iff] at counted ⊢
  refine mt (fun nowhere tree member => ?_) counted
  rw [findHeaders_eq_flatMap subset, nowhere tree member, List.flatMap_nil]

/-- Under a table that has all aliases of another one, and maybe more, a routine that had a number
of scenarios has one. The new total takes in the scenarios of the outermost headers that only the
new aliases find, and gives up those of the headers inside them that were counted before. So it is
not lower if none of these headers stands around headers with more scenarios than it has itself. -/
theorem contextTotal_of_more_aliases {project : Project} {paths : List Path} {key : HeaderKey}
    {first second : AliasTable} {cache later : Cache} {total : Nat}
    (recalls : cache.Recalls project) (laterRecalls : later.Recalls project)
    (more : ∀ other ∈ first.aliases key.toString, other ∈ second.aliases key.toString)
    (counted : (contextTotal project paths key first cache).1 = some total) :
    let trees := paths.map fun path => (project.specParsed path).root
    let before := (findHeaders · (headerTitles key first))
    let added := trees.flatMap (newHeaders (headerTitles key first) (headerTitles key second))
    ∃ larger, (contextTotal project paths key second later).1 = some larger ∧
      larger + scenarioSum (added.flatMap before) = total + scenarioSum added ∧
      ((∀ header ∈ added, scenarioSum (before header) ≤ scenarioCount header) →
        total ≤ larger) := by
  intro trees before added
  have subset := headerTitles_subset more
  have here (table : AliasTable) : (paths.map fun path =>
      countContexts (project.specParsed path).root (headerTitles key table)) =
        trees.map (countContexts · (headerTitles key table)) := by
    simp only [trees, List.map_map, Function.comp_def]
  rw [(answers_contextTotal paths key first cache recalls).1, here] at counted
  rw [(answers_contextTotal paths key second later laterRecalls).1, here]
  obtain ⟨larger, found⟩ := Option.ne_none_iff_exists'.mp
    (sumCounts_ne_none_of_subset subset (Option.ne_none_iff_exists'.mpr ⟨total, counted⟩))
  have balance : larger + scenarioSum (added.flatMap before) = total + scenarioSum added := by
    rw [eq_scenarioSum_of_sumCounts found, eq_scenarioSum_of_sumCounts counted]
    exact scenarioSum_trees subset trees
  refine ⟨larger, found, balance, fun fits => ?_⟩
  have covered := scenarioSum_flatMap_le fits
  omega

/-! ### A header inside the header of an alias

The contexts of the inner header are no contexts of the outer one. -/

/-- A call of a word with a title, each of a given length, and with a block. -/
def titledCall (start word title stop : Nat) (body : List Concrete) : Concrete :=
  let opening := start + word + 1
  let closing := opening + title
  construct "call" start stop none
    [construct "identifier" start (start + word) (some "method") [],
      construct "argument_list" opening closing (some "arguments")
        [construct "string" opening closing none
          [token "'" opening (opening + 1),
            construct "string_content" (opening + 1) (closing - 1) none [],
            token "'" (closing - 1) closing]],
      construct "do_block" (closing + 1) stop (some "block")
        ([token "do" (closing + 1) (closing + 3)] ++ body ++ [token "end" (stop - 3) stop])]

def routeSpecPath : Path := ⟨"", ["spec", "route_spec.rb"]⟩

def routeSpec : String :=
  "describe '.route' do\n  context '#route' do\n    context 'a' do\n    end\n    it 'b' do\n" ++
    "    end\n  end\nend\n"

def routeSpecTree : Concrete :=
  construct "program" 0 102 none
    [titledCall 0 8 8 101
      [construct "body_statement" 23 97 (some "body")
        [titledCall 23 7 8 97
          [construct "body_statement" 47 91 (some "body")
            [titledCall 47 7 3 69 [], titledCall 74 2 3 91 []]]]]]

def routeProject : Project where
  disk := ⟨[], [(["spec"], .directory), (["spec", "route_spec.rb"], .file routeSpec.toUTF8)]⟩
  grammar := fun _ => routeSpecTree

def routeKey : HeaderKey := ⟨.ofInstance, "route".toList⟩

def routeRoot : Node := (routeProject.specParsed routeSpecPath).root

def sendAliases : AliasTable := ⟨[("#route", ["#send"])]⟩

def routeAliases : AliasTable := ⟨[("#route", [".route", "#send"])]⟩

theorem routeAliases_more : ∀ other ∈ sendAliases.aliases routeKey.toString,
    other ∈ routeAliases.aliases routeKey.toString := by
  decide +kernel

theorem contextTotal_sendAliases :
    (contextTotal routeProject [routeSpecPath] routeKey sendAliases .empty).1 = some 2 := by
  decide +kernel

/-- One more alias takes the header of the routine in, and its two scenarios become one. -/
theorem alias_takes_header_in :
    (∀ other ∈ sendAliases.aliases routeKey.toString,
      other ∈ routeAliases.aliases routeKey.toString) ∧
    (contextTotal routeProject [routeSpecPath] routeKey sendAliases .empty).1 = some 2 ∧
      (contextTotal routeProject [routeSpecPath] routeKey routeAliases .empty).1 = some 1 :=
  ⟨routeAliases_more, contextTotal_sendAliases, by decide +kernel⟩

/-- The total gives up the two scenarios of the inner header and takes in the one of the outer. -/
theorem contextTotal_of_more_aliases_route :
    (∀ other ∈ sendAliases.aliases routeKey.toString,
      other ∈ routeAliases.aliases routeKey.toString) ∧
    (contextTotal routeProject [routeSpecPath] routeKey sendAliases .empty).1 = some 2 ∧
      ∃ larger,
        (contextTotal routeProject [routeSpecPath] routeKey routeAliases .empty).1 = some larger ∧
          larger + 2 = 2 + 1 := by
  have recalls := Cache.recalls_empty routeProject
  obtain ⟨larger, found, balance, -⟩ :=
    contextTotal_of_more_aliases recalls recalls routeAliases_more contextTotal_sendAliases
  let added := [routeRoot].flatMap
    (newHeaders (headerTitles routeKey sendAliases) (headerTitles routeKey routeAliases))
  have gained : scenarioSum added = 1 := by decide +kernel
  have lost : scenarioSum
      (added.flatMap (findHeaders · (headerTitles routeKey sendAliases))) = 2 := by
    decide +kernel
  have exchange : larger + scenarioSum
      (added.flatMap (findHeaders · (headerTitles routeKey sendAliases))) =
        2 + scenarioSum added := balance
  rw [lost, gained] at exchange
  exact ⟨routeAliases_more, contextTotal_sendAliases, larger, found, exchange⟩

end SpecLint.Spec
