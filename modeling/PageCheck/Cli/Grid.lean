import PageCheck.Text.Blank
import PageCheck.Text.Width

/-!
Tables of cells with lines around them. A column is as wide as its widest line, and a row as high
as its highest cell; a space stands on both sides of every cell. No line is broken, as no terminal
limits the width.
-/
namespace PageCheck.Grid

structure Line where
  left : Char
  fill : Char
  cross : Char
  right : Char
  deriving DecidableEq, Repr

def topLine : Line := { left := '┌', fill := '─', cross := '┬', right := '┐' }
def headerLine : Line := { left := '╞', fill := '═', cross := '╪', right := '╡' }
def innerLine : Line := { left := '├', fill := '╌', cross := '┼', right := '┤' }
def bottomLine : Line := { left := '└', fill := '─', cross := '┴', right := '┘' }

def side : Char := '│'
def divider : Char := '┆'

abbrev Cell := List (List Char)

def cell (text : String) : Cell := Text.splitAtEach (· = '\n') text.toList

def cellWidth (c : Cell) : Nat := (c.map Text.width).foldl max 0

def columnWidths : List (List Cell) → List Nat
  | [] => []
  | [row] => row.map cellWidth
  | row :: rest => List.zipWith max (row.map cellWidth) (columnWidths rest)

def pad (width : Nat) (content : List Char) : List Char :=
  content ++ List.replicate (width - Text.width content) ' '

def joinWith (between : Char) : List (List Char) → List Char
  | [] => []
  | [piece] => piece
  | piece :: rest => piece ++ between :: joinWith between rest

def drawLine (l : Line) (widths : List Nat) : List Char :=
  let pieces := widths.map fun width => List.replicate (width + 2) l.fill
  l.left :: joinWith l.cross pieces ++ [l.right]

def drawRow (widths : List Nat) (row : List Cell) : List (List Char) :=
  let height := (row.map List.length).foldl max 0
  (List.range height).map fun n =>
    let pieces := List.zipWith
      (fun width (content : Cell) => ' ' :: pad width (content.getD n []) ++ [' ']) widths row
    side :: joinWith divider pieces ++ [side]

def drawRows (widths : List Nat) : List (List Cell) → List (List Char)
  | [] => []
  | [row] => drawRow widths row
  | row :: rest => drawRow widths row ++ drawLine innerLine widths :: drawRows widths rest

def draw (header : List String) (rows : List (List String)) : String :=
  let header := header.map cell
  let rows := rows.map fun row => row.map cell
  let widths := columnWidths (header :: rows)
  let lines := drawLine topLine widths :: drawRow widths header ++
    drawLine headerLine widths :: drawRows widths rows ++ [drawLine bottomLine widths]
  String.ofList (joinWith '\n' lines)

end PageCheck.Grid
