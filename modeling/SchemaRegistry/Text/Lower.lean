namespace SchemaRegistry.Text

/-- The Kelvin sign is the only character outside ASCII whose lower case is an ASCII letter. -/
def lowerChar (c : Char) : Char := if c = '\u212a' then 'k' else c.toLower

def lower (s : String) : String := String.ofList (s.toList.map lowerChar)

end SchemaRegistry.Text
