import SealedKeys.Der.Oid

/-!
The types of attributes in names that have a meaning of their own: the common name, and those
whose values are written in other kinds of strings than the rest.
-/

namespace SealedKeys

namespace AttributeType

def commonName : Oid := .ofArcs [2, 5, 4, 3]
def serialNumber : Oid := .ofArcs [2, 5, 4, 5]
def countryName : Oid := .ofArcs [2, 5, 4, 6]
def domainComponent : Oid := .ofArcs [0, 9, 2342, 19200300, 100, 1, 25]

end AttributeType

end SealedKeys
