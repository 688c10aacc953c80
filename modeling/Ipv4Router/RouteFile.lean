import Ipv4Router.RouteLine
import Ipv4Router.RoutingTable

/-!
# Route files

A route file holds a route on every line that is not blank.  It is read from the
first line to the last and refused at the first line that is not text, does not
describe a route or clashes with an earlier line.  A table takes over the routes
of a file only as a whole: if the file is refused, the table stays as it was.

Lines end with a line feed; a carriage return right before it belongs to the
line end.  The last line may lack its line feed.
-/

namespace Ipv4Router

/-- Why a route file is refused. -/
inductive RouteFileError
  | missing
  | notText
  /-- A line is faulty, or clashes with an earlier one. -/
  | configuration (fault : ConfigurationError)
  deriving DecidableEq

/-- A line without the carriage return at its end, if it has one. -/
def withoutCarriageReturn (line : Octets) : Octets :=
  if line.getLast? = some 13 then line.dropLast else line

/-- The lines of a file that was cut at its line feeds.  Every piece but the last
ended with a line feed; the last piece is a line only if something is in it. -/
def linesOfPieces : List Octets → List Octets
  | [] => []
  | [last] => if last.isEmpty then [] else [last]
  | piece :: next :: rest => withoutCarriageReturn piece :: linesOfPieces (next :: rest)

def fileLines (file : Octets) : List Octets :=
  linesOfPieces (file.splitOn 10)

def decodeText? (octets : Octets) : Option String :=
  String.fromUTF8? (ByteArray.mk octets.toArray)

def encodeText (text : String) : Octets :=
  text.toUTF8.data.toList

namespace RoutingTable

/-- Add the route on a line, whose number is given, to a table. -/
def addLine (table : RoutingTable) (number : Nat) (line : Octets) :
    Except RouteFileError RoutingTable :=
  match decodeText? line with
  | none => .error .notText
  | some text =>
      if text.toList.all isWhiteSpace then .ok table
      else match Route.parse text with
        | .error fault => .error (.configuration (.onLine number fault))
        | .ok route => (table.add route).mapError .configuration

/-- Add the routes on some lines, the first of which has the given number. -/
def addLines (table : RoutingTable) (number : Nat) : List Octets →
    Except RouteFileError RoutingTable
  | [] => .ok table
  | line :: rest =>
      match table.addLine number line with
      | .error fault => .error fault
      | .ok extended => addLines extended (number + 1) rest

def ofFile (file : Octets) : Except RouteFileError RoutingTable :=
  addLines empty 1 (fileLines file)

/-- Replace a table by the routes in a file, which may be missing.  If the file
is refused, the table stays as it was. -/
def reload (table : RoutingTable) (file : Option Octets) :
    RoutingTable × Except RouteFileError Unit :=
  match file with
  | none => (table, .error .missing)
  | some contents =>
      match ofFile contents with
      | .ok loaded => (loaded, .ok ())
      | .error fault => (table, .error fault)

end RoutingTable

end Ipv4Router
