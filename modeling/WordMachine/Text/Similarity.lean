/-!
# Similar words

The Jaro similarity of two words: with `m` the characters that match (equal, and no farther
apart than half the longer word's length less one, each used once) and `t` half the matched
characters that are out of order, it is `(m/|a| + m/|b| + (m - t)/m) / 3`, and `0` when nothing
matches. It is computed in binary64 arithmetic in this order, because suggestions are the words
whose similarity exceeds `0.7` and a rounding can decide that.
-/

namespace WordMachine.Text

/-- Marks the first unmarked position `j` of `b` with `lo ≤ j < hi` that holds `c`. -/
def markFirst (b : List Char) (marks : List Bool) (c : Char) (lo hi : Nat) :
    Option (List Bool) :=
  let rec go : Nat → List Char → List Bool → Option (List Bool)
    | _, [], _ => none
    | _, _, [] => none
    | j, x :: xs, m :: ms =>
      if j ≥ hi then none
      else if lo ≤ j && x == c && !m then some (true :: ms)
      else (go (j + 1) xs ms).map (m :: ·)
  go 0 b marks

/-- The characters at the marked positions, in order. -/
def marked (cs : List Char) (marks : List Bool) : List Char :=
  (cs.zip marks).filterMap fun (c, m) => if m then some c else none

/-- The Jaro similarity of two words. -/
def jaro (a b : List Char) : Float :=
  let la := a.length
  let lb := b.length
  if la == 0 && lb == 0 then 1.0
  else if la == 0 || lb == 0 then 0.0
  else
    let range := max la lb / 2 - 1
    let (aMarks, bMarks) := (a.zipIdx).foldl (fun (am, bm) (c, i) =>
      let lo := if i > range then i - range else 0
      match markFirst b bm c lo (min lb (i + range + 1)) with
      | some bm' => (am ++ [true], bm')
      | none => (am ++ [false], bm)) (([] : List Bool), List.replicate lb false)
    let m := (aMarks.filter id).length
    if m == 0 then 0.0
    else
      let pairs := (marked a aMarks).zip (marked b bMarks)
      let t := (pairs.filter fun (x, y) => x != y).length / 2
      let mf := m.toFloat
      (mf / la.toFloat + mf / lb.toFloat + (m - t).toFloat / mf) / 3.0

/-- The candidates whose similarity to a word exceeds `0.7`, least similar first; candidates of
equal similarity keep their order. -/
def similarTo (word : String) (candidates : List String) : List String :=
  let scored := candidates.filterMap fun c =>
    let s := jaro word.toList c.toList
    if s > 0.7 then some (s, c) else none
  (scored.mergeSort fun x y => x.1 <= y.1).map Prod.snd

end WordMachine.Text
