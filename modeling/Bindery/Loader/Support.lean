set_option autoImplicit false
set_option relaxedAutoImplicit false

/-!
The fixed part of the loader module: the classes that give borrowed and owned values their layout
and free what is owned.
-/

namespace Bindery.Loader

def unlines (lines : List String) : String := String.join (lines.map fun line => line ++ "\n")

def importLines : String :=
  unlines
    ["import ctypes as ct",
      "import functools",
      "",
      ""]

/-- The class that frees an owned value when it is no longer used. -/
def ownerClass : String :=
  unlines
    ["class _Owner:",
      "    \"\"\"Runs the deleter when an owning value is collected.",
      "",
      "    Views into another buffer (struct fields, slice elements) never free.",
      "    \"\"\"",
      "",
      "    def release(self):",
      "        \"\"\"Returns a copy to pass to a function that takes ownership, leaving",
      "        this value empty.\"\"\"",
      "        raw = type(self).from_buffer_copy(self)",
      "        raw._owner = False",
      "        keep = getattr(self, \"_keep\", None)",
      "        if keep is not None:",
      "            raw._keep = keep",
      "        ct.memset(ct.addressof(self), 0, ct.sizeof(self))",
      "        return raw",
      "",
      "    def __del__(self):",
      "        if self._b_base_ is None and getattr(self, \"_owner\", True):",
      "            self.free()",
      "",
      ""]

def sliceMethods : List String :=
  ["",
    "        def __len__(self):",
    "            return int(self.len)",
    "",
    "        def __getitem__(self, index):",
    "            if not 0 <= index < len(self):",
    "                raise IndexError(index)",
    "            return self.data[index]",
    "",
    "        def __iter__(self):",
    "            for index in range(len(self)):",
    "                yield self.data[index]",
    ""]

def sliceFactory : String :=
  unlines
    (["@functools.cache",
      "def Slice(element):",
      "    \"\"\"A borrowed `\x7bdata, len\x7d` view of `element` values.\"\"\"",
      "    pointer = ct.POINTER(element)",
      "",
      "    class Slice(ct.Structure):",
      "        _fields_ = [(\"data\", pointer), (\"len\", ct.c_size_t)]"] ++
      sliceMethods ++ ["    return Slice", "", ""])

def ownedPtrMethods : List String :=
  ["",
    "        def free(self):",
    "            if self.data and self.deleter:",
    "                self.deleter(self.data)",
    "            ct.memset(ct.addressof(self), 0, ct.sizeof(self))",
    ""]

def ownedPtrFactory : String :=
  unlines
    (["@functools.cache",
      "def OwnedPtr(element):",
      "    \"\"\"One `element` and the deleter that frees it.\"\"\"",
      "    pointer = ct.POINTER(element)",
      "",
      "    class OwnedPtr(_Owner, ct.Structure):",
      "        _fields_ = [(\"data\", pointer), (\"deleter\", ct.CFUNCTYPE(None, pointer))]"] ++
      ownedPtrMethods ++ ["    return OwnedPtr", "", ""])

def ownedSliceMethods : List String :=
  ["",
    "        def __len__(self):",
    "            return len(self.slice)",
    "",
    "        def __getitem__(self, index):",
    "            return self.slice[index]",
    "",
    "        def __iter__(self):",
    "            return iter(self.slice)",
    "",
    "        def free(self):",
    "            if self.slice.data and self.deleter:",
    "                self.deleter(self.slice)",
    "            ct.memset(ct.addressof(self), 0, ct.sizeof(self))",
    ""]

def ownedSliceFactory : String :=
  unlines
    (["@functools.cache",
      "def OwnedSlice(element):",
      "    \"\"\"A block of `element` values and the deleter that frees it.\"\"\"",
      "    view = Slice(element)",
      "",
      "    class OwnedSlice(_Owner, ct.Structure):",
      "        _fields_ = [(\"slice\", view), (\"deleter\", ct.CFUNCTYPE(None, view))]"] ++
      ownedSliceMethods ++ ["    return OwnedSlice", "", ""])

def closureMethods : List String :=
  ["",
    "        @classmethod",
    "        def wrap(cls, function):",
    "            \"\"\"Wraps a Python callable, with no state and no deleter.",
    "",
    "            Keep the result alive for as long as it may be called.",
    "            \"\"\"",
    "            trampoline = caller(lambda _state, *args: function(*args))",
    "            closure = cls(trampoline, None, deleter())",
    "            closure._keep = trampoline",
    "            return closure",
    "",
    "        def __call__(self, *args):",
    "            if not self.caller:",
    "                raise ValueError(\"call through an empty closure\")",
    "            return self.caller(self.state, *args)",
    "",
    "        def free(self):",
    "            if self.deleter:",
    "                self.deleter(self.state)",
    "            ct.memset(ct.addressof(self), 0, ct.sizeof(self))",
    ""]

def closureFactory : String :=
  unlines
    (["@functools.cache",
      "def Closure(restype, *argtypes):",
      "    \"\"\"A `\x7bcaller, state, deleter\x7d` callable.\"\"\"",
      "    caller = ct.CFUNCTYPE(restype, ct.c_void_p, *argtypes)",
      "    deleter = ct.CFUNCTYPE(None, ct.c_void_p)",
      "",
      "    class Closure(_Owner, ct.Structure):",
      "        _fields_ = [(\"caller\", caller), (\"state\", ct.c_void_p), (\"deleter\", deleter)]"] ++
      closureMethods ++ ["    return Closure", "", ""])

/-- The function that declares an exported symbol. -/
def declareFunction : String :=
  unlines
    ["def _declare(lib, name, argtypes, restype):",
      "    function = getattr(lib, name)",
      "    function.argtypes = argtypes",
      "    function.restype = restype"]

def support : String :=
  importLines ++ ownerClass ++ sliceFactory ++ ownedPtrFactory ++ ownedSliceFactory ++
    closureFactory ++ declareFunction

end Bindery.Loader
