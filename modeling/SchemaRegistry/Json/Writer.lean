import SchemaRegistry.Text.Bytes

namespace SchemaRegistry.Json

def escapeByte (b : UInt8) : Bytes :=
  if b = 34 || b = 92 then [92, b]
  else if b = 8 then [92, 98]
  else if b = 12 then [92, 102]
  else if b = 10 then [92, 110]
  else if b = 13 then [92, 114]
  else if b = 9 then [92, 116]
  else if b < 32 then [92, 117, 48, 48] ++ (Bytes.hexPair b).map fun c => UInt8.ofNat c.toNat
  else [b]

def writeString (s : String) : Bytes := 34 :: (utf8 s).flatMap escapeByte ++ [34]

def writeInteger (i : Int) : Bytes := utf8 (toString i)

def writeBool (b : Bool) : Bytes := utf8 (if b then "true" else "false")

def writeObject (members : List (String × Bytes)) : Bytes :=
  let written := members.map fun m => writeString m.1 ++ 58 :: m.2
  123 :: List.intercalate [44] written ++ [125]

end SchemaRegistry.Json
