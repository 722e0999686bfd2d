import Socks5.Value.Basic

/-!
# Knots

Values that hold each other are numbered, and links stand for them among their members. Opening a
knot gives one of its values with members that are knots again, so that a knot can be looked into
like any other value.
-/

namespace Socks5.Value

/-- A list, tuple or mapping with other members in the same places. -/
def mapMembersM {m : Type → Type} [Monad m] (f : Value → m Value) : Value → m Value
  | list items => return list (← items.mapM f)
  | tuple items => return tuple (← items.mapM f)
  | dict entries => return dict (← entries.mapM fun (k, v) => return (k, ← f v))
  | v => return v

/-! ### Looking into knots -/

/-- A member of a value of a knot by itself. -/
def untied (values : List Value) : Value → Value
  | link l => knot values l
  | v => v

/-- A value as a list, tuple or mapping if it is a knot; any other one is left as it is. -/
def opened : Value → Value
  | knot values l =>
    Id.run ((values.getD l.place null).mapMembersM fun v => return v.untied values)
  | v => v

/-! ### Tying knots -/

/-- What a member of one of several values is as a tree, if there is such a tree. As no value is
twice on a way into a tree, as many steps as there are values are enough. -/
def tree? (values : Array Value) : (fuel : Nat) → Value → Option Value
  | 0, link _ => none
  | fuel + 1, link l => (values.getD l.place null).mapMembersM (tree? values fuel)
  | _, v => some v

/-- What a member of one of several values is by itself: a tree if there is one, else a knot, in
which links are left only where there is no tree. -/
def tied (values : Array Value) (v : Value) : Value :=
  match v, tree? values values.size v with
  | _, some tree => tree
  | link l, none =>
    knot (values.toList.map fun v => Id.run (v.mapMembersM fun w =>
      return (tree? values values.size w).getD w)) l
  | v, none => v

end Socks5.Value
