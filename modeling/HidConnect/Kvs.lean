/-! `k=v` tokens: the parser and the writer. The source scans bytes; every byte it looks for is ASCII,
so that scanning characters finds the same places. -/
namespace HidConnect
namespace Kvs

/-- `u8::is_ascii_whitespace` -/
def isAsciiWhitespace (c : Char) : Bool :=
  c == ' ' || c == '\t' || c == '\n' || c == '\x0C' || c == '\r'

/-- `char::is_whitespace` -/
def isWhitespace (c : Char) : Bool :=
  (0x09 ≤ c.toNat && c.toNat ≤ 0x0D) || c.toNat == 0x20 || c.toNat == 0x85 || c.toNat == 0xA0 ||
    c.toNat == 0x1680 || (0x2000 ≤ c.toNat && c.toNat ≤ 0x200A) || c.toNat == 0x2028 ||
    c.toNat == 0x2029 || c.toNat == 0x202F || c.toNat == 0x205F || c.toNat == 0x3000

def trimStart (s : List Char) : List Char := s.dropWhile isWhitespace

/-- How far the closing quote reaches, or the text if there is none. -/
def quotedLen : List Char → Nat
  | [] => 0
  | c :: rest => if c = '"' then 1 else quotedLen rest + 1

def tokenLen : List Char → Nat
  | [] => 0
  | c :: rest =>
    if isAsciiWhitespace c then 0
    else if c = '=' ∧ rest.head? = some '"' then 2 + quotedLen rest.tail
    else tokenLen rest + 1

def splitOneToken (s : List Char) : List Char × List Char :=
  (s.take (tokenLen s), (s.drop (tokenLen s)).dropWhile isAsciiWhitespace)

def unquoted (s : List Char) : Option (List Char) :=
  if 2 ≤ s.length ∧ s.head? = some '"' ∧ s.getLast? = some '"' then some s.tail.dropLast else none

def splitKv (token : List Char) : List Char × List Char :=
  if token.contains '=' then
    let key := token.takeWhile (· ≠ '=')
    let valueRaw := token.drop (key.length + 1)
    (key, (unquoted valueRaw).getD valueRaw)
  else ((unquoted token).getD token, [])

/-- `TokenIter`, run to its end. Every turn takes at least one character. -/
def tokens : Nat → List Char → List (List Char × List Char)
  | 0, _ => []
  | turns + 1, rest =>
    if (trimStart rest).isEmpty then []
    else if (splitOneToken (trimStart rest)).1.isEmpty then
      tokens turns (splitOneToken (trimStart rest)).2
    else
      splitKv (splitOneToken (trimStart rest)).1 :: tokens turns (splitOneToken (trimStart rest)).2

def parseKv (input : String) : List (String × String) :=
  (tokens input.length input.toList).map fun p => (String.ofList p.1, String.ofList p.2)

def needsQuoting (s : List Char) : Bool :=
  s.any fun c => isAsciiWhitespace c || c == '=' || c == '"'

def escape (s : List Char) : List Char := s.flatMap fun c => if c = '"' then ['\\', '"'] else [c]

def quoteValue (s : List Char) : List Char :=
  if needsQuoting s then '"' :: (escape s ++ ['"']) else s

end Kvs

structure KvWriter where
  out : String
  needsSep : Bool

namespace KvWriter

def new (out : String) : KvWriter := { out, needsSep := false }

/-- `key(k).value(v)` -/
def value (w : KvWriter) (k v : String) : KvWriter :=
  { out := (if w.needsSep then w.out ++ " " else w.out) ++ k ++ "=" ++
      String.ofList (Kvs.quoteValue v.toList)
    needsSep := true }

def written (pairs : List (String × String)) : String :=
  (pairs.foldl (fun w p => w.value p.1 p.2) (new "")).out

end KvWriter

end HidConnect
