/-
# SqlLex.Keyword -- the reserved words

The dialects share one table of reserved words in upper case.  A look-up takes a
word in upper case and answers its canonical spelling, which is the word itself
(`lookup_eq_some_iff`).
-/

namespace SqlLex.Keyword

set_option autoImplicit false

/-- Words that define and change tables, indexes and schemas. -/
def definitions : List String :=
  ["CREATE", "DROP", "ALTER", "TABLE", "INDEX", "DATABASE", "SCHEMA", "VIEW", "MATERIALIZED",
   "CONSTRAINT", "PRIMARY", "FOREIGN", "KEY", "REFERENCES", "UNIQUE", "DEFAULT", "CHECK", "ADD",
   "COLUMN", "RENAME", "TO", "CASCADE", "RESTRICT", "TRUNCATE", "TEMPORARY", "EXTERNAL", "IF"]

/-- Words of queries and of changes to rows. -/
def queries : List String :=
  ["SELECT", "INSERT", "UPDATE", "DELETE", "FROM", "INTO", "VALUES", "SET", "WHERE", "HAVING",
   "GROUP", "ORDER", "BY", "LIMIT", "OFFSET", "FETCH", "FIRST", "NEXT", "ROW", "ROWS", "ONLY",
   "WITH", "RECURSIVE", "RETURNING", "DISTINCT", "ALL", "ANY", "SOME", "AS", "ASC", "DESC",
   "NULLS", "LAST", "COPY", "STDIN"]

/-- Words that join tables and combine sets of rows. -/
def joins : List String :=
  ["JOIN", "INNER", "LEFT", "RIGHT", "FULL", "OUTER", "CROSS", "NATURAL", "ON", "USING", "UNION",
   "INTERSECT", "EXCEPT", "LATERAL"]

/-- Words of conditions. -/
def predicates : List String :=
  ["AND", "OR", "NOT", "IN", "EXISTS", "BETWEEN", "LIKE", "ILIKE", "SIMILAR", "IS", "NULL",
   "TRUE", "FALSE", "UNKNOWN", "ESCAPE"]

/-- Words of expressions, functions and windows. -/
def expressions : List String :=
  ["CASE", "WHEN", "THEN", "ELSE", "END", "CAST", "EXTRACT", "COLLATE", "COUNT", "SUM", "AVG",
   "MIN", "MAX", "OVER", "PARTITION", "WINDOW", "RANGE", "PRECEDING", "FOLLOWING", "CURRENT",
   "UNBOUNDED", "FILTER", "WITHIN", "INTERVAL", "AT", "ZONE", "CURRENT_DATE", "CURRENT_TIME",
   "CURRENT_TIMESTAMP", "LOCALTIME", "LOCALTIMESTAMP"]

/-- Names of data types. -/
def types : List String :=
  ["INT", "INTEGER", "SMALLINT", "BIGINT", "REAL", "FLOAT", "DOUBLE", "PRECISION", "DECIMAL",
   "NUMERIC", "CHAR", "CHARACTER", "VARCHAR", "VARYING", "TEXT", "BOOLEAN", "DATE", "TIME",
   "TIMESTAMP", "UUID", "BYTEA", "REGCLASS", "ARRAY", "CLOB", "BLOB", "BINARY", "VARBINARY"]

/-- Words of transactions and of privileges. -/
def transactions : List String :=
  ["BEGIN", "START", "COMMIT", "ROLLBACK", "TRANSACTION", "SAVEPOINT", "ISOLATION", "LEVEL",
   "READ", "WRITE", "GRANT", "REVOKE"]

/-- Every reserved word. -/
def words : List String :=
  definitions ++ queries ++ joins ++ predicates ++ expressions ++ types ++ transactions

/-- The canonical spelling of a word given in upper case, if it is reserved. -/
def lookup (word : String) : Option String :=
  words.find? (· == word)

/-- The number of different reserved words. -/
def count : Nat := words.eraseDups.length

/-- The table answers the word it was asked for. -/
theorem eq_of_lookup {word found : String} (h : lookup word = some found) : found = word := by
  simpa using List.find?_some h

theorem lookup_eq_some_iff {word found : String} :
    lookup word = some found ↔ found = word ∧ word ∈ words := by
  constructor
  · intro h
    have same := eq_of_lookup h
    subst same
    exact ⟨rfl, List.mem_of_find?_eq_some h⟩
  · rintro ⟨rfl, reserved⟩
    cases h : lookup found with
    | none =>
      exact absurd (beq_self_eq_true found) (by simpa using List.find?_eq_none.1 h found reserved)
    | some other => rw [eq_of_lookup h]

end SqlLex.Keyword
