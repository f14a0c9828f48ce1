import ListingFilter.Fault
import ListingFilter.Text.Substring
/-!
# Drivers

A database URL names a dialect and, after a plus sign, one of its drivers; without one the dialect
has a driver of its own. Few drivers are installed. Beside its drivers a dialect has types and
parts, whose names are known too, but nothing can be opened with them.
-/

namespace ListingFilter.Database

/-- A driver that is installed. -/
inductive Driver
  /-- A client of a database server. -/
  | client
  /-- The driver of databases in files and in memory. -/
  | embedded
  deriving DecidableEq, Repr

/-- A dialect with the names that it knows. -/
structure Dialect where
  name : String
  /-- The names of the drivers that are installed. -/
  installed : List String := []
  /-- What the installed drivers are. -/
  driver : Driver := .client
  /-- The names of the drivers that are not installed. -/
  missing : List String := []
  /-- The names of what is no driver. -/
  others : List String := []
  deriving DecidableEq, Repr

namespace Dialect

/-- The name that the driver of the dialect itself goes by. -/
def ownDriver : String := "base"

def postgresql : Dialect :=
  { name := "postgresql"
    installed := [ownDriver, "psycopg", "psycopg_async"]
    missing := ["asyncpg", "pg8000", "psycopg2", "psycopg2cffi"]
    others := [
      "_psycopg_common", "All", "Any", "ARRAY", "AbstractMultiRange", "AbstractRange",
      "AbstractSingleRange", "BIGINT", "BIT", "BOOLEAN", "BYTEA", "BitString", "CHAR", "CIDR",
      "CITEXT", "CreateDomainType", "CreateEnumType", "DATE", "DATEMULTIRANGE", "DATERANGE",
      "DOMAIN", "DOUBLE_PRECISION", "DropDomainType", "DropEnumType", "ENUM", "ExcludeConstraint",
      "FLOAT", "HSTORE", "INET", "INT4MULTIRANGE", "INT4RANGE", "INT8MULTIRANGE", "INT8RANGE",
      "INTEGER", "INTERVAL", "Insert", "JSON", "JSONB", "JSONPATH", "MACADDR", "MACADDR8", "MONEY",
      "MultiRange", "NUMERIC", "NUMMULTIRANGE", "NUMRANGE", "NamedType", "OID", "REAL", "REGCLASS",
      "REGCONFIG", "Range", "SMALLINT", "TEXT", "TIME", "TIMESTAMP", "TSMULTIRANGE", "TSQUERY",
      "TSRANGE", "TSTZMULTIRANGE", "TSTZRANGE", "TSVECTOR", "UUID", "VARCHAR", "aggregate_order_by",
      "array", "array_agg", "arraylib", "bitstring", "dialect", "distinct_on", "dml", "ext",
      "hstore", "insert", "json", "named_types", "operators", "pg_catalog", "phraseto_tsquery",
      "plainto_tsquery", "ranges", "to_tsquery", "to_tsvector", "ts_headline", "types",
      "websearch_to_tsquery"] }

def sqlite : Dialect :=
  { name := "sqlite"
    installed := [ownDriver, "pysqlite"]
    driver := .embedded
    missing := ["aiosqlite", "pysqlcipher"]
    others := [
      "BLOB", "BOOLEAN", "CHAR", "DATE", "DATETIME", "DECIMAL", "FLOAT", "INTEGER", "Insert",
      "JSON", "NUMERIC", "REAL", "SMALLINT", "TEXT", "TIME", "TIMESTAMP", "VARCHAR", "dialect",
      "dml", "insert", "json"] }

/-- The drivers of MySQL, which also serve MariaDB. -/
def mysqlDrivers : List String :=
  [ownDriver, "aiomysql", "asyncmy", "cymysql", "mariadbconnector", "mysqlconnector", "mysqldb",
   "pymysql", "pyodbc"]

/-- The parts of MySQL, which are also parts of MariaDB. -/
def mysqlParts : List String :=
  ["_mariadb_shim", "dml", "enumerated", "expression", "json", "mariadb", "reflection",
   "reserved_words", "types"]

def mysql : Dialect :=
  { name := "mysql"
    missing := mysqlDrivers
    others := mysqlParts ++ [
      "BIGINT", "BINARY", "BIT", "BLOB", "BOOLEAN", "CHAR", "DATE", "DATETIME", "DECIMAL", "DOUBLE",
      "ENUM", "FLOAT", "INET4", "INET6", "INTEGER", "Insert", "JSON", "LONGBLOB", "LONGTEXT",
      "MEDIUMBLOB", "MEDIUMINT", "MEDIUMTEXT", "NCHAR", "NUMERIC", "NVARCHAR", "REAL", "SET",
      "SMALLINT", "TEXT", "TIME", "TIMESTAMP", "TINYBLOB", "TINYINT", "TINYTEXT", "VARBINARY",
      "VARCHAR", "YEAR", "dialect", "insert", "limit", "match"] }

def mariadb : Dialect :=
  { name := "mariadb"
    missing := mysqlDrivers
    others := "provision" :: mysqlParts }

def oracle : Dialect :=
  { name := "oracle"
    missing := [ownDriver, "cx_oracle", "oracledb", "oracledb_async"]
    others := [
      "BFILE", "BINARY_DOUBLE", "BINARY_FLOAT", "BLOB", "BOOLEAN", "CHAR", "CLOB", "DATE",
      "DOUBLE_PRECISION", "FLOAT", "INTERVAL", "JSON", "LONG", "NCHAR", "NCLOB", "NUMBER",
      "NUMERIC", "NVARCHAR", "NVARCHAR2", "RAW", "REAL", "ROWID", "SparseVector", "TIMESTAMP",
      "VARCHAR", "VARCHAR2", "VECTOR", "VectorDistanceType", "VectorIndexConfig", "VectorIndexType",
      "VectorStorageFormat", "VectorStorageType", "dialect", "dictionary", "json", "types",
      "vector"] }

def mssql : Dialect :=
  { name := "mssql"
    missing := [ownDriver, "aioodbc", "mssqlpython", "pymssql", "pyodbc"]
    others := [
      "BIGINT", "BINARY", "BIT", "CHAR", "DATE", "DATETIME", "DATETIME2", "DATETIMEOFFSET",
      "DECIMAL", "DOUBLE_PRECISION", "FLOAT", "IMAGE", "INTEGER", "JSON", "MONEY", "NCHAR", "NTEXT",
      "NUMERIC", "NVARCHAR", "REAL", "ROWVERSION", "SMALLDATETIME", "SMALLINT", "SMALLMONEY",
      "SQL_VARIANT", "TEXT", "TIME", "TIMESTAMP", "TINYINT", "UNIQUEIDENTIFIER", "VARBINARY",
      "VARCHAR", "XML", "dialect", "information_schema", "json", "try_cast"] }

/-- The dialects that are known. -/
def all : List Dialect := [postgresql, sqlite, mysql, mariadb, oracle, mssql]

/-- The dialect under a name. -/
def find? (name : String) : Option Dialect := all.find? fun dialect => dialect.name == name

end Dialect

namespace Driver

/-- The driver of the dialect `dialect` under the name `driver`, where `name` is both together. -/
def ofDialect (name dialect driver : String) : Except Fault Driver :=
  match Dialect.find? dialect with
  | none => .error (.unknownDriver name)
  | some dialect =>
    if dialect.installed.contains driver then .ok dialect.driver
    else if dialect.missing.contains driver then .error (.missingDriver name)
    else if dialect.others.contains driver then .error (.notADriver name)
    else .error (.unknownDriver name)

/-- The driver that a URL names. -/
def ofName (name : String) : Except Fault Driver :=
  match (Text.splitOn '+' name.toList).map String.ofList with
  | [dialect] => ofDialect name dialect Dialect.ownDriver
  | [dialect, driver] => ofDialect name dialect driver
  | _ => .error (.malformedDriver name)

end Driver

end ListingFilter.Database
