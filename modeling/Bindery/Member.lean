/-!
# Members by name

* `commonMembers`: the members that everything has.
* `classMembers`: those that every class has besides them.
* `instanceMembers`: those that the objects of most classes have besides them.
-/

namespace Bindery

/-- The members that everything has. -/
def commonMembers : List String := [
  "__class__", "__delattr__", "__dir__", "__doc__", "__eq__", "__format__", "__ge__",
  "__getattribute__", "__getstate__", "__gt__", "__hash__", "__init__", "__init_subclass__",
  "__le__", "__lt__", "__ne__", "__new__", "__reduce__", "__reduce_ex__", "__repr__",
  "__setattr__", "__sizeof__", "__str__", "__subclasshook__"]

/-- The members that every class has besides the common ones. -/
def classMembers : List String := [
  "__annotations__", "__base__", "__bases__", "__basicsize__", "__call__", "__dict__",
  "__dictoffset__", "__flags__", "__instancecheck__", "__itemsize__", "__module__", "__mro__",
  "__name__", "__or__", "__prepare__", "__qualname__", "__ror__", "__subclasscheck__",
  "__subclasses__", "__text_signature__", "__weakref__", "__weakrefoffset__", "mro"]

/-- The members that the objects of most classes have besides the common ones. -/
def instanceMembers : List String := ["__dict__", "__module__", "__weakref__"]

end Bindery
