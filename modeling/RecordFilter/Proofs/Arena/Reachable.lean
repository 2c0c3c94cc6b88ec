import RecordFilter.Proofs.Arena.Refinement

set_option autoImplicit false

namespace RecordFilter

namespace Arena

inductive Reachable (schema : Schema) (root : String) : Arena → Prop where
  | start (arena : Arena) (begun : start schema root = .ok arena) : Reachable schema root arena
  | distinct (arena : Arena) (flag : Bool) (before : Reachable schema root arena) :
      Reachable schema root (arena.setDistinct flag)
  | resolve (arena : Arena) (path : Path) (kind : JoinKind) (fetch : Bool) (before : Reachable schema root arena) :
      Reachable schema root ((resolve schema path kind fetch).run arena).2

variable {schema : Schema} {root : String} {arena : Arena}

theorem IsTree.resolve (tree : arena.IsTree schema) (path : Path) (kind : JoinKind) (fetch : Bool) :
    ((Arena.resolve schema path kind fetch).run arena).2.IsTree schema ∧
      arena.Keeps ((Arena.resolve schema path kind fetch).run arena).2 ∧
      (path.resolve schema kind fetch).run arena.scope =
        (((Arena.resolve schema path kind fetch).run arena).1, ((Arena.resolve schema path kind fetch).run arena).2.scope) := by
  cases resolve_refines path kind fetch tree with
  | ok after mine other here there treeOn kept agrees =>
    change (Arena.resolve schema path kind fetch).run arena = _ at here
    rw [here]
    exact ⟨treeOn, kept, agrees ▸ there⟩
  | error after error here there treeOn kept =>
    change (Arena.resolve schema path kind fetch).run arena = _ at here
    rw [here]
    exact ⟨treeOn, kept, there⟩

theorem Reachable.isTree (reachable : arena.Reachable schema root) : arena.IsTree schema := by
  induction reachable with
  | start arena begun => exact isTree_start begun
  | distinct arena flag before ih => exact ih.setDistinct flag
  | resolve arena path kind fetch before ih => exact (ih.resolve path kind fetch).1

theorem Reachable.scope (reachable : arena.Reachable schema root) : arena.scope.Reachable schema root := by
  induction reachable with
  | start arena begun =>
    refine .start arena.scope ?_
    rw [← scope_start, begun]
    rfl
  | distinct arena flag before ih => exact .distinct arena.scope flag ih
  | resolve arena path kind fetch before ih =>
    obtain ⟨_, _, same⟩ := before.isTree.resolve path kind fetch
    have further := Scope.Reachable.resolve arena.scope path kind fetch ih
    rwa [same] at further

/-- After any resolutions, failed ones included, the nodes form a tree, and one more resolution keeps those that are there.
What it does to them is what it does to the scope, in which joins are known by the fields that are crossed; it never asks
for the entity of a node that has none. -/
theorem joins_form_tree (reachable : arena.Reachable schema root) :
    arena.IsTree schema ∧ arena.scope.Reachable schema root ∧ arena.scope.joinCount = arena.joinCount ∧
      arena.scope.selectList = arena.selectList ∧ arena.scope.joinsText = arena.joinsText ∧
      ∀ (path : Path) (kind : JoinKind) (fetch : Bool) (result : Except Error Column) (after : Arena),
        (resolve schema path kind fetch).run arena = (result, after) →
          arena.Keeps after ∧ (path.resolve schema kind fetch).run arena.scope = (result, after.scope) ∧
            ∀ error, result = .error error → path.Cause schema arena.scope.entity error := by
  have tree := reachable.isTree
  refine ⟨tree, reachable.scope, arena.joinCount_scope, tree.selectList_scope, arena.joinsText_scope, ?_⟩
  intro path kind fetch result after resolved
  obtain ⟨_, kept, same⟩ := tree.resolve path kind fetch
  rw [resolved] at kept same
  refine ⟨kept, same, fun error refused => ?_⟩
  have failed : ((path.resolve schema kind fetch).outcome arena.scope).1 = .error error :=
    (congrArg Prod.fst same).trans refused
  exact Path.resolve_cause reachable.scope.settled.1 failed

end Arena

def series : Entity where
  name := "Series"
  table := "series"
  primaryKey := some "id"
  fields := [("books", .association (.hasMany "Book" "series_id"))]

theorem Arena.joins_form_tree_series :
    let schema := (books.insert series).schema
    ∃ arena : Arena, arena.Reachable schema "Series" ∧ arena.IsTree schema ∧
      arena.nodes.map Node.parent = [none, some 0, some 1, some 1, some 1] ∧
      arena.nodes.map Node.path = ["", "books", "books.author", "books.genres", "books.tags"] ∧
      arena.numbers = [0, 1, 2, 3, 4, 5] ∧ arena.nextNumber = 6 ∧
      Path.Cause schema arena.scope.entity ⟨["books", "author", "height"]⟩ (.unknownField "Author" "height") := by
  intro schema
  have reachable : Arena.Reachable schema "Series" _ :=
    .resolve _ ⟨["books", "tags"]⟩ .left false (.resolve _ ⟨["books", "genres", "name"]⟩ .inner true
      (.resolve _ ⟨["books", "author", "height"]⟩ .inner false (.start _ rfl)))
  obtain ⟨tree, _, _, _, _, onward⟩ := Arena.joins_form_tree reachable
  exact ⟨_, reachable, tree, by decide +kernel, by decide +kernel, by decide +kernel, by decide +kernel,
    (onward ⟨["books", "author", "height"]⟩ .inner false _ _ (Prod.eta _).symm).2.2 _ (by decide +kernel)⟩

end RecordFilter
