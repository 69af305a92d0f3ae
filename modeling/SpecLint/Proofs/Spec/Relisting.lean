import Mathlib.Algebra.Order.BigOperators.Group.List
import Mathlib.Algebra.Order.Group.Nat
import SpecLint.Proofs.Spec.MoreAliases

/-!
# Spec files and aliases in another order

The scenarios of a routine are summed over its spec files, so the order of the files has no say in
the sum. A header counts if its title is one of the titles of the routine, whichever of the aliases
gave the title and however often it was given, and the key of the routine is a title of its own
accord. So only what is listed matters, and not how.

## Main result

`contextTotal_of_listing`: the total under another listing, when there is none, and how it grows
with the spec files.
-/
namespace SpecLint

open SpecLint.Text

/-! ### Reading keys -/

/-- The name of a key does not end with blanks, which reading would remove. -/
def HeaderKey.IsTrimmed (key : HeaderKey) : Prop :=
  ∀ last ∈ key.name.getLast?, isBlank last = false

instance (key : HeaderKey) : Decidable key.IsTrimmed :=
  decidable_of_iff (key.name.getLast?.all (!isBlank ·) = true) (by
    cases ends : key.name.getLast? <;> simp [HeaderKey.IsTrimmed, ends])

theorem dropWhile_isBlank_of_solid {c : Char} (solid : isBlank c = false) (text : List Char) :
    (c :: text).dropWhile isBlank = c :: text :=
  List.dropWhile_cons_of_neg (by simp [solid])

theorem trim_chars {key : HeaderKey} (trimmed : key.IsTrimmed) : trim key.chars = key.chars := by
  -- nothing is cut in front because of the sigil, and nothing behind by assumption
  have opening : isBlank key.scope.sigil = false := by
    cases key.scope <;> decide
  have front : key.chars.dropWhile isBlank = key.chars := dropWhile_isBlank_of_solid opening _
  have back : key.chars.reverse.dropWhile isBlank = key.chars.reverse := by
    rcases List.eq_nil_or_concat key.name with none | ⟨text, last, named⟩
    · rw [HeaderKey.chars, none]
      exact dropWhile_isBlank_of_solid opening []
    · have solid : isBlank last = false := trimmed last (by simp [named])
      have reversed : key.chars.reverse = last :: (key.scope.sigil :: text).reverse := by
        simp [HeaderKey.chars, named]
      rw [reversed]
      exact dropWhile_isBlank_of_solid solid _
  rw [trim, front, back, List.reverse_reverse]

/-- A key that is written as an alias reads as itself, if it reads at all. -/
theorem eq_of_ofString?_toString {key other : HeaderKey} (trimmed : key.IsTrimmed)
    (read : HeaderKey.ofString? key.toString = some other) : other = key := by
  rw [HeaderKey.ofString?, HeaderKey.toString, String.toList_ofList, HeaderKey.ofChars?,
    trim_chars trimmed] at read
  obtain ⟨scope, name⟩ := key
  cases name with
  | nil => cases read
  | cons c name => cases scope <;> exact (Option.some.inj read).symm

namespace Spec

open SpecLint.Code

/-! ### Titles -/

theorem mem_headerTitles {key : HeaderKey} {table : AliasTable} {title : String} :
    title ∈ headerTitles key table ↔ title = key.toString ∨
      ∃ raw ∈ table.written key.toString, ∃ other, HeaderKey.ofString? raw = some other ∧
        other.toString = title := by
  simp only [headerTitles, List.map_cons, List.mem_cons, AliasTable.aliases, List.mem_map,
    List.mem_filterMap]
  constructor
  · rintro (own | ⟨other, ⟨raw, listed, read⟩, named⟩)
    · exact .inl own
    · exact .inr ⟨raw, listed, other, read, named⟩
  · rintro (own | ⟨raw, listed, other, read, named⟩)
    · exact .inl own
    · exact .inr ⟨other, ⟨raw, listed, read⟩, named⟩

/-- Two tables list the same aliases for a key, in whatever order, however often, and with the key
itself or without. -/
def SameAliases (key : HeaderKey) (first second : AliasTable) : Prop :=
  ∀ raw, raw ≠ key.toString →
    (raw ∈ first.written key.toString ↔ raw ∈ second.written key.toString)

theorem SameAliases.symm {key : HeaderKey} {first second : AliasTable}
    (same : SameAliases key first second) : SameAliases key second first :=
  fun raw other => (same raw other).symm

theorem SameAliases.titles_subset {key : HeaderKey} {first second : AliasTable}
    (same : SameAliases key first second) (trimmed : key.IsTrimmed) {title : String}
    (member : title ∈ headerTitles key first) : title ∈ headerTitles key second := by
  rcases mem_headerTitles.mp member with own | ⟨raw, listed, other, read, named⟩
  · exact mem_headerTitles.mpr (.inl own)
  · by_cases self : raw = key.toString
    -- the second table need not list the key itself, which is a title anyway
    · rw [self] at read
      rw [eq_of_ofString?_toString trimmed read] at named
      exact mem_headerTitles.mpr (.inl named.symm)
    · exact mem_headerTitles.mpr (.inr ⟨raw, (same raw self).mp listed, other, read, named⟩)

/-- Which headers are found depends on the titles as a set. -/
theorem countContexts_congr {titles others : List String}
    (same : ∀ title, title ∈ titles ↔ title ∈ others) (tree : Node) :
    countContexts tree titles = countContexts tree others := by
  have tests : isHeaderTitled titles = isHeaderTitled others := by
    funext node
    rw [Bool.eq_iff_iff]
    exact ⟨isHeaderTitled_of_subset fun title => (same title).mp,
      isHeaderTitled_of_subset fun title => (same title).mpr⟩
  simp only [countContexts, findHeaders, headerSites, tests]

/-! ### Sums -/

theorem sumCounts_perm {first second : List (Option Nat)} (perm : first.Perm second) :
    sumCounts first = sumCounts second := by
  have found := perm.filterMap id
  have empty : (first.filterMap id).isEmpty = (second.filterMap id).isEmpty := found.isEmpty_eq
  have sums : (first.filterMap id).foldr (· + ·) 0 = (second.filterMap id).foldr (· + ·) 0 :=
    found.sum_eq
  simp only [sumCounts, empty, sums]

/-- More counts leave a number a number and make it no smaller. -/
theorem sumCounts_of_sublist {counts more : List (Option Nat)} {total : Nat}
    (among : counts.Sublist more) (counted : sumCounts counts = some total) :
    ∃ larger, sumCounts more = some larger ∧ total ≤ larger := by
  have present : sumCounts more ≠ none := by
    intro absent
    -- then none of the counts is a number, and the fewer ones were not either
    have nothing : sumCounts counts = none := (sumCounts_eq_none_iff _).mpr fun count member =>
      (sumCounts_eq_none_iff _).mp absent count (among.subset member)
    rw [nothing] at counted
    cases counted
  obtain ⟨larger, found⟩ := Option.ne_none_iff_exists'.mp present
  refine ⟨larger, found, ?_⟩
  rw [eq_sum_of_sumCounts counted, eq_sum_of_sumCounts found]
  exact (among.map _).sum_le_sum fun count _ => Nat.zero_le count

/-- How many scenarios a routine has does not depend on how its spec files and its aliases are
listed: their order makes no difference, nor does an alias that is listed again or the key itself as
an alias. There is no number exactly if no spec file has a header with a title of the routine, and
with more spec files a number stays a number that is at least as large. -/
theorem contextTotal_of_listing {project : Project} {paths : List Path} {key : HeaderKey}
    {table : AliasTable} {cache : Cache} (recalls : cache.Recalls project)
    (trimmed : key.IsTrimmed) :
    let total := (contextTotal project paths key table cache).1
    (∀ (others : List Path) (second : AliasTable) (later : Cache), later.Recalls project →
      paths.Perm others → SameAliases key table second →
        (contextTotal project others key second later).1 = total) ∧
    (total = none ↔ ∀ path ∈ paths, ∀ site ∈ (Site.root (project.specParsed path).root).walk,
      ¬TitledHeader (headerTitles key table) site.node) ∧
    ∀ (larger : List Path) (later : Cache), later.Recalls project → paths.Subperm larger →
      ∀ number, total = some number →
        ∃ sum, (contextTotal project larger key table later).1 = some sum ∧ number ≤ sum := by
  intro total
  have here : total = sumCounts (paths.map fun path =>
      countContexts (project.specParsed path).root (headerTitles key table)) :=
    (answers_contextTotal paths key table cache recalls).1
  refine ⟨?_, ?_, ?_⟩
  · intro others second later recallsLater perm same
    have titles (title : String) :
        title ∈ headerTitles key second ↔ title ∈ headerTitles key table :=
      ⟨same.symm.titles_subset trimmed, same.titles_subset trimmed⟩
    rw [(answers_contextTotal others key second later recallsLater).1, here]
    simp only [countContexts_congr titles]
    exact sumCounts_perm (perm.symm.map _)
  · rw [here, sumCounts_eq_none_iff, List.forall_mem_map]
    simp only [countContexts_eq_none_iff]
  · rintro larger later recallsLater ⟨listed, perm, among⟩ number counted
    rw [(answers_contextTotal larger key table later recallsLater).1]
    refine sumCounts_of_sublist (among.map _) ?_
    rw [← counted, here]
    exact sumCounts_perm (perm.map _)

/-! Two spec files, one of them missing, and an alias that is listed twice beside the key. -/

def missingSpecPath : Path := ⟨"", ["spec", "route_more_spec.rb"]⟩

def repeatedAliases : AliasTable := ⟨[("#route", ["#send", "#route", "#send"])]⟩

theorem contextTotal_of_listing_route :
    Cache.empty.Recalls routeProject ∧ routeKey.IsTrimmed ∧
      [routeSpecPath, missingSpecPath].Perm [missingSpecPath, routeSpecPath] ∧
      SameAliases routeKey sendAliases repeatedAliases ∧
      (contextTotal routeProject [missingSpecPath, routeSpecPath] routeKey repeatedAliases
        .empty).1 = some 2 := by
  have recalls := Cache.recalls_empty routeProject
  have trimmed : routeKey.IsTrimmed := by decide
  have swapped : [routeSpecPath, missingSpecPath].Perm [missingSpecPath, routeSpecPath] :=
    .swap ..
  have same : SameAliases routeKey sendAliases repeatedAliases := by
    intro raw other
    have sent : sendAliases.written routeKey.toString = ["#send"] := by decide +kernel
    have repeated : repeatedAliases.written routeKey.toString =
        ["#send", routeKey.toString, "#send"] := by decide +kernel
    rw [sent, repeated]
    simp [other]
  have both : (contextTotal routeProject [routeSpecPath, missingSpecPath] routeKey sendAliases
      .empty).1 = some 2 := by
    decide +kernel
  have relisted := (contextTotal_of_listing recalls trimmed).1 _ _ _ recalls swapped same
  exact ⟨recalls, trimmed, swapped, same, relisted.trans both⟩

end Spec

end SpecLint
