/-! Wildcard patterns: `*` stands for any text, `?` for one character, `[...]` for one character
of a set and `[!...]` for one outside it. A slash is a character like any other. -/
namespace PatchReview.Glob

inductive Piece where
  | anyText
  | anyChar
  | oneOf (negated : Bool) (ranges : List (Char × Char))
deriving DecidableEq

/-- The text before and behind the first hyphen that has at least `skip` characters before it. -/
def cutAtHyphen : Nat → List Char → Option (List Char × List Char)
  | _, [] => none
  | 0, '-' :: rest => some ([], rest)
  | n, c :: rest => (cutAtHyphen (n - 1) rest).map fun (a, b) => (c :: a, b)

/-- The body of a set cut at the hyphens that make ranges: such a hyphen has `skip` characters
before it, and two characters separate it from the hyphen before. A hyphen at the end makes no
range. The first argument bounds the number of cuts. -/
def chunks : Nat → Nat → List Char → List (List Char)
  | 0, _, body => [body]
  | fuel + 1, skip, body =>
    match cutAtHyphen skip body with
    | none => [body]
    | some (chunk, []) => [chunk ++ ['-']]
    | some (chunk, rest) => chunk :: chunks fuel 2 rest

/-- Takes out a range whose ends are in falling order. -/
def joinChunks (chunk : List Char) : List (List Char) → List (List Char)
  | [] => [chunk]
  | next :: rest =>
    match chunk.getLast?, next.head? with
    | some a, some b =>
      if b < a then (chunk.dropLast ++ next.drop 1) :: rest else chunk :: next :: rest
    | _, _ => chunk :: next :: rest

/-- The ranges of one chunk after another. The last character of a chunk and the first of the
next are the ends of a range. -/
def rangesOf : List (List Char) → List (Char × Char)
  | [] => []
  | [chunk] => chunk.map fun c => (c, c)
  | chunk :: next :: rest =>
    match chunk.getLast?, next with
    | some a, b :: behind =>
      (chunk.dropLast.map fun c => (c, c)) ++ (a, b) :: rangesOf (behind :: rest)
    | _, _ => (chunk.map fun c => (c, c)) ++ ('-', '-') :: rangesOf (next :: rest)
termination_by cs => cs.length

/-- The set whose body is given. A set without characters matches nothing, and its opposite
matches everything. -/
def setPiece (body : List Char) : Piece :=
  let skip := if body.head? = some '!' then 2 else 1
  let cut := (chunks body.length skip body).foldr joinChunks []
  match cut with
  | [['!']] => .anyChar
  | ('!' :: chunk) :: rest => .oneOf true (rangesOf (chunk :: rest))
  | cs => .oneOf false (rangesOf cs)

/-- The number of characters at the start of a set that cannot close it: `!`, and a bracket that
is the first of the set or stands behind that `!`. -/
def openingLength : List Char → Nat
  | '!' :: ']' :: _ => 2
  | '!' :: _ => 1
  | ']' :: _ => 1
  | _ => 0

/-- The body of a set and what follows its closing bracket. -/
def splitSet (s : List Char) : Option (List Char × List Char) :=
  let inside := s.drop (openingLength s)
  match inside.dropWhile (· != ']') with
  | [] => none
  | _ :: rest => some (s.take (openingLength s) ++ inside.takeWhile (· != ']'), rest)

theorem length_of_splitSet {s body rest : List Char} (h : splitSet s = some (body, rest)) :
    rest.length < s.length := by
  simp only [splitSet] at h
  split at h
  · simp at h
  · next heq =>
    simp only [Option.some.injEq, Prod.mk.injEq] at h
    have hsuffix := (List.dropWhile_suffix (l := s.drop (openingLength s)) (· != ']')).length_le
    rw [heq, List.length_cons, h.2, List.length_drop] at hsuffix
    omega

/-- The parts of a pattern. A bracket without a closing one is a plain character. -/
def pieces : List Char → List Piece
  | [] => []
  | '*' :: rest => .anyText :: pieces rest
  | '?' :: rest => .anyChar :: pieces rest
  | '[' :: rest =>
    match h : splitSet rest with
    | some (body, after) =>
      have := length_of_splitSet h
      setPiece body :: pieces after
    | none => .oneOf false [('[', '[')] :: pieces rest
  | c :: rest => .oneOf false [(c, c)] :: pieces rest
termination_by s => s.length

/-- Whether a character lies in one of the ranges. -/
def inSet (ranges : List (Char × Char)) (c : Char) : Bool :=
  ranges.any fun r => r.1 ≤ c && c ≤ r.2

/-- Whether the parts match the whole text. -/
def fits : List Piece → List Char → Bool
  | [], s => s.isEmpty
  | .anyText :: ps, [] => fits ps []
  | .anyText :: ps, c :: s => fits ps (c :: s) || fits (.anyText :: ps) s
  | .anyChar :: _, [] => false
  | .anyChar :: ps, _ :: s => fits ps s
  | .oneOf _ _ :: _, [] => false
  | .oneOf negated ranges :: ps, c :: s => inSet ranges c != negated && fits ps s
termination_by ps s => ps.length + s.length

/-- Whether the pattern matches the whole text. -/
def isMatch (pattern text : String) : Bool := fits (pieces pattern.toList) text.toList

end PatchReview.Glob
