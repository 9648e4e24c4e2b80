namespace GatedPipeline.Digraph

/-- Moves numbers from `waiting` to `settled` in rounds, each time all those whose successors have
settled. None if some number can never settle. -/
def settle (succ : Nat → List Nat) : Nat → List Nat → List Nat → Option (List Nat)
  | _, settled, [] => some settled
  | 0, _, _ :: _ => none
  | fuel + 1, settled, waiting =>
    let free := waiting.filter fun i => (succ i).all settled.contains
    if free.isEmpty then none
    else settle succ fuel (settled ++ free) (waiting.filter (!free.contains ·))

def order? (n : Nat) (succ : Nat → List Nat) : Option (List Nat) :=
  settle succ n [] (List.range n)

def addNew (xs : List Nat) (x : Nat) : List Nat := if xs.contains x then xs else xs ++ [x]

def spread (succ : Nat → List Nat) : Nat → List Nat → List Nat
  | 0, xs => xs
  | steps + 1, xs =>
    let ys := (xs.flatMap succ).foldl addNew xs
    if ys.length == xs.length then xs else spread succ steps ys

def reachable (n : Nat) (succ : Nat → List Nat) (i : Nat) : List Nat :=
  spread succ n ((succ i).foldl addNew [])

/-- The numbers that lie on a common cycle with `i`. -/
def cycleMates (n : Nat) (succ : Nat → List Nat) (i : Nat) : List Nat :=
  (reachable n succ i).filter fun j => (reachable n succ j).contains i

def least? : List Nat → Option Nat
  | [] => none
  | x :: xs => some (xs.foldl min x)

/-- Walks to the least successor among the members, until a number comes again. `path` is the walk
in reverse. -/
def walk (succ : Nat → List Nat) (members : List Nat) : Nat → List Nat → Nat → List Nat
  | 0, path, _ => path.reverse
  | fuel + 1, path, current =>
    match least? ((succ current).filter members.contains) with
    | none => path.reverse
    | some next =>
      if path.contains next then
        -- Cut down to the cycle, which starts and ends with that number.
        path.reverse.dropWhile (· != next) ++ [next]
      else walk succ members fuel (next :: path) next

/-- A cycle through numbers below `n`: the one that is found from the least number that lies on
any cycle. -/
def cycle? (n : Nat) (succ : Nat → List Nat) : Option (List Nat) :=
  if (order? n succ).isSome then none
  else
    (List.range n).find? (fun i => (reachable n succ i).contains i) |>.map fun start =>
      walk succ (cycleMates n succ start) n [start] start

end GatedPipeline.Digraph
