/-!
# Methods for the operations of the language

Each operation of the language asks for a method of its own. A method that is built in for an
operation is called in the same way in every class and says the same of itself.
-/

namespace FragmentWeaver.Standard

/-- The methods that operations of the language ask for: how each is called, and what it says of
    itself. -/
def operationTable : List (String × String × String) := [
  ("__abs__", "($self, /)", "abs(self)"), ("__add__", "($self, value, /)", "Return self+value."),
  ("__aiter__", "($self, /)", "Return an awaitable, that resolves in asynchronous iterator."),
  ("__and__", "($self, value, /)", "Return self&value."),
  ("__anext__", "($self, /)", "Return a value or raise StopAsyncIteration."),
  ("__await__", "($self, /)", "Return an iterator to be used in await expression."),
  ("__bool__", "($self, /)", "True if self else False"),
  ("__call__", "($self, /, *args, **kwargs)", "Call self as a function."),
  ("__contains__", "($self, key, /)", "Return key in self."),
  ("__delattr__", "($self, name, /)", "Implement delattr(self, name)."),
  ("__delete__", "($self, instance, /)", "Delete an attribute of instance."),
  ("__delitem__", "($self, key, /)", "Delete self[key]."),
  ("__divmod__", "($self, value, /)", "Return divmod(self, value)."),
  ("__eq__", "($self, value, /)", "Return self==value."),
  ("__float__", "($self, /)", "float(self)"),
  ("__floordiv__", "($self, value, /)", "Return self//value."),
  ("__ge__", "($self, value, /)", "Return self>=value."),
  ("__get__", "($self, instance, owner=None, /)",
    "Return an attribute of instance, which is of type owner."),
  ("__getattribute__", "($self, name, /)", "Return getattr(self, name)."),
  ("__getitem__", "($self, key, /)", "Return self[key]."),
  ("__gt__", "($self, value, /)", "Return self>value."),
  ("__hash__", "($self, /)", "Return hash(self)."),
  ("__iadd__", "($self, value, /)", "Implement self+=value."),
  ("__iand__", "($self, value, /)", "Return self&=value."),
  ("__ifloordiv__", "($self, value, /)", "Return self//=value."),
  ("__ilshift__", "($self, value, /)", "Return self<<=value."),
  ("__imatmul__", "($self, value, /)", "Return self@=value."),
  ("__imod__", "($self, value, /)", "Return self%=value."),
  ("__imul__", "($self, value, /)", "Implement self*=value."),
  ("__index__", "($self, /)",
    "Return self converted to an integer, if self is suitable for use as an index into a list."),
  ("__init__", "($self, /, *args, **kwargs)",
    "Initialize self.  See help(type(self)) for accurate signature."),
  ("__int__", "($self, /)", "int(self)"), ("__invert__", "($self, /)", "~self"),
  ("__ior__", "($self, value, /)", "Return self|=value."),
  ("__ipow__", "($self, value, /)", "Return self**=value."),
  ("__irshift__", "($self, value, /)", "Return self>>=value."),
  ("__isub__", "($self, value, /)", "Return self-=value."),
  ("__iter__", "($self, /)", "Implement iter(self)."),
  ("__itruediv__", "($self, value, /)", "Return self/=value."),
  ("__ixor__", "($self, value, /)", "Return self^=value."),
  ("__le__", "($self, value, /)", "Return self<=value."),
  ("__len__", "($self, /)", "Return len(self)."),
  ("__lshift__", "($self, value, /)", "Return self<<value."),
  ("__lt__", "($self, value, /)", "Return self<value."),
  ("__matmul__", "($self, value, /)", "Return self@value."),
  ("__mod__", "($self, value, /)", "Return self%value."),
  ("__mul__", "($self, value, /)", "Return self*value."),
  ("__ne__", "($self, value, /)", "Return self!=value."), ("__neg__", "($self, /)", "-self"),
  ("__new__", "($type, *args, **kwargs)",
    "Create and return a new object.  See help(type) for accurate signature."),
  ("__next__", "($self, /)", "Implement next(self)."),
  ("__or__", "($self, value, /)", "Return self|value."), ("__pos__", "($self, /)", "+self"),
  ("__pow__", "($self, value, mod=None, /)", "Return pow(self, value, mod)."),
  ("__radd__", "($self, value, /)", "Return value+self."),
  ("__rand__", "($self, value, /)", "Return value&self."),
  ("__rdivmod__", "($self, value, /)", "Return divmod(value, self)."),
  ("__repr__", "($self, /)", "Return repr(self)."),
  ("__rfloordiv__", "($self, value, /)", "Return value//self."),
  ("__rlshift__", "($self, value, /)", "Return value<<self."),
  ("__rmatmul__", "($self, value, /)", "Return value@self."),
  ("__rmod__", "($self, value, /)", "Return value%self."),
  ("__rmul__", "($self, value, /)", "Return value*self."),
  ("__ror__", "($self, value, /)", "Return value|self."),
  ("__rpow__", "($self, value, mod=None, /)", "Return pow(value, self, mod)."),
  ("__rrshift__", "($self, value, /)", "Return value>>self."),
  ("__rshift__", "($self, value, /)", "Return self>>value."),
  ("__rsub__", "($self, value, /)", "Return value-self."),
  ("__rtruediv__", "($self, value, /)", "Return value/self."),
  ("__rxor__", "($self, value, /)", "Return value^self."),
  ("__set__", "($self, instance, value, /)", "Set an attribute of instance to value."),
  ("__setattr__", "($self, name, value, /)", "Implement setattr(self, name, value)."),
  ("__setitem__", "($self, key, value, /)", "Set self[key] to value."),
  ("__str__", "($self, /)", "Return str(self)."),
  ("__sub__", "($self, value, /)", "Return self-value."),
  ("__truediv__", "($self, value, /)", "Return self/value."),
  ("__xor__", "($self, value, /)", "Return self^value."),
  ("_value_repr_", "($self, /)", "Return repr(self).")]

/-- How the method for an operation is called. -/
def operationSignature? (name : String) : Option String :=
  (operationTable.find? fun row => row.1 = name).map fun row => row.2.1

/-- What the method for an operation says of itself. -/
def operationText? (name : String) : Option String :=
  (operationTable.find? fun row => row.1 = name).map fun row => row.2.2

end FragmentWeaver.Standard
