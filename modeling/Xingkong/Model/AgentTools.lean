import Xingkong.Model.Json
import Xingkong.Model.RequestRules

/-!
# File tools of the playground's agent

`web/default/src/features/playground/lib/agent-tools.ts`: the edits of a file, the difference
that is shown for approval and the escaping of XML. Of a file only its text is modelled.
-/

namespace Xingkong

open Text TopLevel

/-! ## Edits -/

/-- `content.split(/\r?\n/)` -/
def splitLines : Text → List Text
  | [] => [[]]
  | '\r' :: '\n' :: s => [] :: splitLines s
  | '\n' :: s => [] :: splitLines s
  | c :: s =>
    match splitLines s with
    | [] => [[c]]
    | line :: lines => (c :: line) :: lines

/-- The row of the matrix for a line, from the row below it. -/
def fillRow (line : Text) : List Text → List Nat → List Nat
  | [], _ => [0]
  | next :: nextLines, below =>
    let row := fillRow line nextLines below.tail
    (if line = next then below.tail.headD 0 + 1 else max (below.headD 0) (row.headD 0)) :: row

def fillMatrix (nextLines : List Text) : List Text → List (List Nat)
  | [] => [List.replicate (nextLines.length + 1) 0]
  | line :: oldLines =>
    let below := fillMatrix nextLines oldLines
    fillRow line nextLines (below.headD []) :: below

inductive DiffLine
  | context (line : Text)
  | removed (line : Text)
  | added (line : Text)

def DiffLine.text : DiffLine → Text
  | context line => "  ".toList ++ line
  | removed line => "- ".toList ++ line
  | added line => "+ ".toList ++ line

/-- The walk through the matrix, with the lines from `i` and from `j` on. -/
def walkLines (matrix : List (List Nat)) (i j : Nat) : List Text → List Text → List DiffLine
  | line :: oldLines, next :: nextLines =>
    if line = next then .context line :: walkLines matrix (i + 1) (j + 1) oldLines nextLines
    else if (matrix.getD (i + 1) []).getD j 0 ≥ (matrix.getD i []).getD (j + 1) 0 then
      .removed line :: walkLines matrix (i + 1) j oldLines (next :: nextLines)
    else .added next :: walkLines matrix i (j + 1) (line :: oldLines) nextLines
  | oldLines, nextLines => oldLines.map .removed ++ nextLines.map .added
termination_by oldLines nextLines => oldLines.length + nextLines.length

def diffLines (oldContent nextContent : Text) : List DiffLine :=
  let oldLines := splitLines oldContent
  let nextLines := splitLines nextContent
  walkLines (fillMatrix nextLines oldLines) 0 0 oldLines nextLines

def buildLineDiff (oldContent nextContent : Text) : Text :=
  join ['\n'] ((diffLines oldContent nextContent).map DiffLine.text)

/-! ## XML texts -/

/-- A text as its UTF-16 code units, lone surrogates included. -/
abbrev Units := List UInt16

def units (s : String) : Units := s.toList.map (·.toNat.toUInt16)

/-- `value.replace(/…/g, …)`. For the match that starts at a unit, `found` gives what is written and
how many more units it has; these are skipped. -/
def replaceMatches (found : Units → Option (Units × Nat)) : Nat → Units → Units
  | _, [] => []
  | skip + 1, _ :: s => replaceMatches found skip s
  | 0, c :: s =>
    match found (c :: s) with
    | some (new, skip) => new ++ replaceMatches found skip s
    | none => c :: replaceMatches found 0 s

def entity (old new : String) (s : Units) : Option (Units × Nat) :=
  if (units old).isPrefixOf s then some (units new, old.length - 1) else none

/-- `/<!\[CDATA\[([\s\S]*?)\]\]>/`, for `$1` -/
def cdata (s : Units) : Option (Units × Nat) :=
  if (units "<![CDATA[").isPrefixOf s then
    ((s.drop 9).tails.findIdx? (units "]]>").isPrefixOf).map fun n => ((s.drop 9).take n, n + 11)
  else none

def decodeXml (value : Units) : Units :=
  value
    |> replaceMatches cdata 0
    |> replaceMatches (entity "&lt;" "<") 0
    |> replaceMatches (entity "&gt;" ">") 0
    |> replaceMatches (entity "&quot;" "\"") 0
    |> replaceMatches (entity "&apos;" "'") 0
    |> replaceMatches (entity "&amp;" "&") 0

def escapeXml (value : Units) : Units :=
  value
    |> replaceMatches (entity "&" "&amp;") 0
    |> replaceMatches (entity "<" "&lt;") 0
    |> replaceMatches (entity ">" "&gt;") 0

end Xingkong
