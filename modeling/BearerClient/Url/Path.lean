import BearerClient.Url.Address
import BearerClient.Url.Percent

/-!
# Paths

The path of a URL as a list of segments.  A segment that is a dot says nothing, two dots take back
the segment before, and in either case a path that ends there ends in an empty segment.  Two dots
take back nothing where the segment before looks like the letter of a drive.
-/

namespace BearerClient.Url

/-- One character of a segment, where an encoded dot is a dot. -/
def dots : List Char → Option Nat
  | [] => some 0
  | '.' :: rest => (dots rest).map (· + 1)
  | '%' :: '2' :: 'e' :: rest => (dots rest).map (· + 1)
  | '%' :: '2' :: 'E' :: rest => (dots rest).map (· + 1)
  | _ => none

/-- A letter followed by a colon or a bar. -/
def isDrive : List Char → Bool
  | [letter, mark] => letter.isAlpha && (mark = ':' || mark = '|')
  | _ => false

/-- The segments in reverse, with one more segment that is not the last. -/
def pushSegment (reversed : List (List Char)) (segment : List Char) : List (List Char) :=
  match dots segment with
  | some 1 => reversed
  | some 2 =>
    match reversed with
    | [] => []
    | top :: rest => if isDrive top then top :: rest else rest
  | _ => encode pathSet segment :: reversed

/-- The last segment: dots leave an empty one behind. -/
def finishSegments (reversed : List (List Char)) (segment : List Char) : List (List Char) :=
  match dots segment with
  | some 1 | some 2 => [] :: pushSegment reversed segment
  | _ => pushSegment reversed segment

def segmentsFrom (reversed : List (List Char)) : List (List Char) → List (List Char)
  | [] => reversed.reverse
  | [last] => (finishSegments reversed last).reverse
  | segment :: rest => segmentsFrom (pushSegment reversed segment) rest

/-- The segments of what stands after the first slash of a path. -/
def segments (isSlash : Char → Bool) (text : List Char) : List (List Char) :=
  segmentsFrom [] (cutAt isSlash text)

inductive Path where
  /-- segments, each with a slash before it -/
  | rooted (segments : List (List Char))
  /-- a path that names nothing below an authority -/
  | rootless (text : List Char)
  deriving Repr, DecidableEq

def Path.text : Path → List Char
  | .rooted segments => segments.flatMap ('/' :: ·)
  | .rootless text => text

end BearerClient.Url
