import ChartLint.Proofs.Block.Relocate
import ChartLint.Proofs.Section.Tree
import ChartLint.Section.Stack

/-!
Places of sections. Neither the stack nor the tree compares places: if they are all moved, the same
sections are open, and the tree has the same form.
-/
namespace ChartLint

namespace Setting

def relocate (f : Range → Range) (setting : Setting) : Setting :=
  { setting with range := f setting.range }

variable (f : Range → Range)

theorem value_relocate (setting : Setting) : (setting.relocate f).value = setting.value := rfl

theorem named?_relocate (settings : List Setting) (name : String) :
    named? (settings.map (relocate f)) name = (named? settings name).map (relocate f) := by
  rw [named?, List.find?_map]
  rfl

theorem isSome_named?_relocate (settings : List Setting) (name : String) :
    (named? (settings.map (relocate f)) name).isSome = (named? settings name).isSome := by
  rw [named?_relocate, Option.isSome_map]

theorem scopeOf_relocate (settings : List Setting) :
    scopeOf (settings.map (relocate f)) = scopeOf settings := by
  simp only [scopeOf, named?_relocate, Option.map_map]
  rfl

theorem check_relocate (setting : Setting) :
    (setting.relocate f).check = setting.check.map (Finding.relocate f) := by
  rw [check, check, Option.map_map]
  rfl

end Setting

namespace Section

namespace Frame

def relocate (f : Range → Range) (frame : Frame) : Frame :=
  { frame with range := f frame.range, settings := frame.settings.map (Setting.relocate f) }

theorem unmet?_relocate (f : Range → Range) (frame : Frame) :
    (frame.relocate f).unmet? = frame.unmet?.map (Finding.relocate f) := by
  rw [unmet?, unmet?, Option.map_map]
  rfl

end Frame

namespace Stack

def relocate (f : Range → Range) (stack : Stack) : Stack := ⟨stack.frames.map (Frame.relocate f)⟩

variable (f : Range → Range) (stack : Stack)

theorem size_relocate : (stack.relocate f).size = stack.size := List.length_map _

theorem top?_relocate : (stack.relocate f).top? = stack.top?.map (Frame.relocate f) :=
  List.head?_map ..

theorem accept_relocate (catalog : Catalog) (name : String) :
    (stack.relocate f).accept catalog name = stack.accept catalog name := by
  have sameDepth (depth : Nat) :
      (stack.relocate f).depthFor catalog name depth = stack.depthFor catalog name depth := by
    simp only [depthFor, size_relocate, top?_relocate, Option.any_map]
    rfl
  simp only [accept, size_relocate, sameDepth]

theorem unmet?_relocate (frames : List Frame) :
    unmet? (frames.map (Frame.relocate f)) = (unmet? frames).map (Finding.relocate f) := by
  have isFirst : (frames.map (Frame.relocate f)).find? (fun frame => !frame.isSatisfied) =
      (frames.find? fun frame => !frame.isSatisfied).map (Frame.relocate f) :=
    List.find?_map ..
  rw [unmet?, unmet?, isFirst]
  cases frames.find? fun frame => !frame.isSatisfied with
  | none => rfl
  | some frame => exact frame.unmet?_relocate f

theorem openAt_relocate (catalog : Catalog) (name : String) (range : Range) (depth : Nat) :
    (stack.relocate f).openAt catalog name (f range) depth =
      Prod.map (relocate f) (Option.map (Finding.relocate f))
        (stack.openAt catalog name range depth) := by
  simp only [openAt, Prod.map, size_relocate]
  rw [relocate, ← List.map_take, unmet?_relocate, ← List.map_drop, relocate, List.map_cons,
    List.map_map, List.map_map]
  rfl

theorem insert_relocate (catalog : Catalog) (name : String) (range : Range) :
    (stack.relocate f).insert catalog name (f range) =
      (stack.insert catalog name range).map
        (Prod.map (relocate f) (Option.map (Finding.relocate f))) := by
  rw [insert, insert, accept_relocate]
  cases stack.accept catalog name with
  | error issue => rfl
  | ok depth => exact congrArg Except.ok (openAt_relocate f stack catalog name range depth)

theorem finish_relocate :
    (stack.relocate f).finish =
      Prod.map (relocate f) (Option.map (Finding.relocate f)) stack.finish := by
  rw [finish, finish, relocate, unmet?_relocate]
  rfl

theorem modify_relocate (name : String) {change : Frame → Frame}
    (commutes : ∀ frame, change (frame.relocate f) = (change frame).relocate f) :
    (stack.relocate f).modify name change = (stack.modify name change).relocate f := by
  have isRest : (stack.relocate f).frames.dropWhile (fun frame => frame.name != name) =
      (stack.frames.dropWhile fun frame => frame.name != name).map (Frame.relocate f) :=
    List.dropWhile_map ..
  have isInner : (stack.relocate f).frames.takeWhile (fun frame => frame.name != name) =
      (stack.frames.takeWhile fun frame => frame.name != name).map (Frame.relocate f) :=
    List.takeWhile_map ..
  simp only [modify, isRest, isInner]
  cases stack.frames.dropWhile (fun frame => frame.name != name) with
  | nil => rfl
  | cons frame outer => simp [relocate, commutes]

theorem require_relocate (target : String) (names : List String) :
    (stack.relocate f).require target names = (stack.require target names).relocate f :=
  modify_relocate f stack target fun _ => rfl

theorem replaceRequirements_relocate (target : String) (options : List (List String)) :
    (stack.relocate f).replaceRequirements target options =
      (stack.replaceRequirements target options).relocate f :=
  modify_relocate f stack target fun _ => rfl

theorem addSettings_relocate (settings : List Setting) :
    (stack.relocate f).addSettings (settings.map (Setting.relocate f)) =
      (stack.addSettings settings).relocate f := by
  obtain ⟨frames⟩ := stack
  cases frames with
  | nil => rfl
  | cons frame outer => simp [addSettings, relocate, Frame.relocate]

theorem setting?_relocate (name : String) (recursive : Bool) :
    (stack.relocate f).setting? name recursive =
      (stack.setting? name recursive).map (Setting.relocate f) := by
  have areFrames : (if recursive then (stack.relocate f).frames else (stack.relocate f).frames.take 1) =
      (if recursive then stack.frames else stack.frames.take 1).map (Frame.relocate f) := by
    cases recursive with
    | true => rfl
    | false => exact List.map_take.symm
  rw [setting?, setting?, areFrames, List.findSome?_map, List.map_findSome?]
  apply congrFun
  apply congrArg
  funext frame
  exact Setting.named?_relocate f frame.settings _

theorem isSome_setting?_relocate (name : String) (recursive : Bool) :
    ((stack.relocate f).setting? name recursive).isSome = (stack.setting? name recursive).isSome := by
  rw [setting?_relocate, Option.isSome_map]

end Stack

namespace Node

def relocate (f : Range → Range) (node : Node) : Node :=
  { node with range := f node.range, settings := node.settings.map (Setting.relocate f) }

theorem setting?_relocate (f : Range → Range) (node : Node) (name : String) :
    (node.relocate f).setting? name = (node.setting? name).map (Setting.relocate f) :=
  Setting.named?_relocate f node.settings _

end Node

namespace Tree

def relocate (f : Range → Range) (tree : Tree) : Tree :=
  { tree with nodes := tree.nodes.map (Node.relocate f) }

variable (f : Range → Range) (tree : Tree)

theorem size_relocate : (tree.relocate f).size = tree.size := Array.size_map

theorem getElem?_relocate (id : Nat) :
    (tree.relocate f).nodes[id]? = tree.nodes[id]?.map (Node.relocate f) :=
  Array.getElem?_map

theorem placeFor?_relocate (catalog : Catalog) (name : String) (depth : Nat) :
    (tree.relocate f).placeFor? catalog name depth = tree.placeFor? catalog name depth := by
  have sameEnclosing : (tree.relocate f).enclosing? catalog name = tree.enclosing? catalog name := by
    rw [enclosing?, enclosing?]
    apply congrFun
    apply congrArg
    funext id
    rw [getElem?_relocate, Option.any_map]
    rfl
  have sameParent : (tree.relocate f).parentFor? catalog name depth =
      tree.parentFor? catalog name depth := by
    unfold parentFor?
    rw [sameEnclosing]
    rfl
  rw [placeFor?, sameParent]
  rfl

theorem attach_relocate (depth : Nat) (node : Node) :
    (tree.relocate f).attach depth (node.relocate f) = (tree.attach depth node).relocate f := by
  have sameNodes : ((tree.relocate f).attach depth (node.relocate f)).nodes =
      ((tree.attach depth node).relocate f).nodes := by
    apply Array.ext_getElem?
    intro id
    have isMoved : (if id = tree.size then some (node.relocate f)
        else tree.nodes[id]?.map (Node.relocate f)) =
        (if id = tree.size then some node else tree.nodes[id]?).map (Node.relocate f) := by
      split <;> rfl
    rw [getElem?_relocate, getElem?_nodes_attach, getElem?_nodes_attach, getElem?_relocate,
      size_relocate, isMoved, Option.map_map, Option.map_map]
    apply congrFun
    apply congrArg
    funext other
    exact (apply_ite (Node.relocate f) (node.parent = some id) (other.enclose tree.size) other).symm
  have sameId := size_relocate f tree
  change Tree.mk _ _ _ _ _ = Tree.mk _ _ _ _ _
  rw [Tree.mk.injEq]
  refine ⟨sameNodes, ?_, ?_, ?_, ?_⟩ <;>
  · rw [sameId]
    rfl

theorem add_relocate (catalog : Catalog) (name : String) (range : Range) (settings : List Setting) :
    (tree.relocate f).add catalog name (f range) (settings.map (Setting.relocate f)) =
      (tree.add catalog name range settings).relocate f := by
  unfold add add?
  cases catalog.depth? name with
  | none => rfl
  | some depth =>
    rw [Option.bind_eq_bind, Option.bind_some, Option.bind_eq_bind, Option.bind_some,
      placeFor?_relocate]
    cases tree.placeFor? catalog name depth with
    | none => rfl
    | some parent =>
      rw [Option.bind_some, Option.bind_some, Setting.scopeOf_relocate]
      exact attach_relocate f tree depth { name, range, settings, parent }

theorem path_relocate (id : Nat) :
    (tree.relocate f).path id = (tree.path id).map (Node.relocate f) := by
  have sameParent {node : Node} {parent : Option Nat} (h : node.parent = parent) :
      (node.relocate f).parent = parent := h
  fun_induction tree.path id with
  | case1 id isNone =>
    rw [path, getElem?_relocate, isNone]
    rfl
  | case2 id node isNode isRoot =>
    rw [path, getElem?_relocate, isNode]
    simp [sameParent isRoot]
  | case3 id node isNode parent isParent before ih =>
    rw [path, getElem?_relocate, isNode]
    simp [sameParent isParent, before, ih]
  | case4 id node isNode parent isParent notBefore =>
    rw [path, getElem?_relocate, isNode]
    simp [sameParent isParent, notBefore]

theorem setting?_relocate (id : Nat) (name : String) :
    (tree.relocate f).setting? id name = (tree.setting? id name).map (Setting.relocate f) := by
  rw [setting?, setting?, path_relocate, List.findSome?_map, List.map_findSome?]
  apply congrFun
  apply congrArg
  funext node
  exact node.setting?_relocate f name

theorem scopeValue?_relocate (id : Nat) (key : Scope.Key) :
    (tree.relocate f).scopeValue? id key = tree.scopeValue? id key := by
  rw [scopeValue?, scopeValue?, path_relocate, List.findSome?_map]
  rfl

theorem order_relocate : (tree.relocate f).order = tree.order := by
  have sameChildren (id : Nat) : (tree.relocate f).children id = tree.children id := by
    rw [children, getElem?_relocate, Option.map_map]
    rfl
  have samePreorder (id : Nat) : (tree.relocate f).preorder id = tree.preorder id := by
    induction id using tree.preorder_induction with
    | step id ih =>
      rw [preorder_eq, preorder_eq, sameChildren]
      exact congrArg (id :: ·) (List.flatMap_congr ih)
  unfold order
  simp only [samePreorder]
  rfl

end Tree

end Section

end ChartLint
