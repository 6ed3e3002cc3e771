set_option autoImplicit false
set_option relaxedAutoImplicit false

/-!
The mark that tells the byte order of a text. At the front of a text it is no part of it.
-/

namespace Bindery.Text

def dropOrderMark : List Char → List Char
  | '\ufeff' :: rest => rest
  | cs => cs

end Bindery.Text
